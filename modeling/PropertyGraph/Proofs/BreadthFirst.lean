import Mathlib.Order.Lattice.Nat
import PropertyGraph.Proofs.Components

/-!
# Searches go breadth first

The queue of a search holds ids of at most two layers: some that are as far from the start as the
one visited next, and after them some that are one step further. Every unseen id is further away
than the one visited next, and only from the queue do steps lead to unseen ids. This is `Layered`,
which a visit preserves: `Layered.visit`.

The point of the visit is the last clause on unseen ids. When the queue passes from one layer to the
next, an unseen id on the new layer would have been one step from an id on the old layer, and all of
those have been visited. So ids are visited in the order of their distance: `Layered.sorted_search`.

Each component comes of one such search, from a start that had not been seen, when all starts before
it had been: `exists_search`.
-/

namespace PropertyGraph

namespace Analytics

variable {next : String → List String} {unseen queue : List String} {start : String}

/-! ## Hops and distances -/

/-- A path of a number of steps from one id to another. -/
inductive Hops (step : String → String → Prop) (x : String) : Nat → String → Prop where
  | none : Hops step x 0 x
  | more {n : Nat} {y z : String} (h : Hops step x n y) (hstep : step y z) : Hops step x (n + 1) z

/-- The number of steps on a shortest path, if any path leads from one id to the other. -/
noncomputable def distance (step : String → String → Prop) (x y : String) : Nat :=
  sInf {n | Hops step x n y}

section Distance

variable {step : String → String → Prop} {x y z : String} {n : Nat}

theorem Hops.distance_le (h : Hops step x n y) : distance step x y ≤ n := Nat.sInf_le h

theorem exists_hops (h : Relation.ReflTransGen step x y) : ∃ n, Hops step x n y := by
  induction h with
  | refl => exact ⟨0, Hops.none⟩
  | tail _ hstep ih =>
    obtain ⟨n, hn⟩ := ih
    exact ⟨n + 1, hn.more hstep⟩

theorem Hops.reaches (h : Hops step x n y) : Relation.ReflTransGen step x y := by
  induction h with
  | none => exact Relation.ReflTransGen.refl
  | more _ hstep ih => exact ih.tail hstep

/-- What can be reached can be reached by a path as long as the distance. -/
theorem hops_distance (h : Relation.ReflTransGen step x y) : Hops step x (distance step x y) y :=
  Nat.sInf_mem (exists_hops h)

theorem distance_self (step : String → String → Prop) (x : String) : distance step x x = 0 :=
  Nat.le_zero.mp (Hops.none.distance_le)

theorem distance_step_le (h : Relation.ReflTransGen step x y) (hstep : step y z) :
    distance step x z ≤ distance step x y + 1 :=
  ((hops_distance h).more hstep).distance_le

/-- The last step of a shortest path comes from one step nearer. -/
theorem exists_step_nearer (h : Relation.ReflTransGen step x z) (hne : x ≠ z) :
    ∃ y, Relation.ReflTransGen step x y ∧ step y z ∧ distance step x z = distance step x y + 1 := by
  have hpath := hops_distance h
  generalize hn : distance step x z = n at hpath
  cases hpath with
  | none => exact absurd rfl hne
  | @more m y _ hpath hstep =>
    have hle : distance step x y ≤ m := hpath.distance_le
    have hge := distance_step_le hpath.reaches hstep
    exact ⟨y, hpath.reaches, hstep, by omega⟩

end Distance

/-! ## Layers -/

/-- How many steps to neighbours lead from one id to another, at least. -/
noncomputable def away (next : String → List String) : String → String → Nat :=
  distance fun x y => y ∈ next x

/-- Whether an id is on the layer of another, seen from a start, or on the layer after it. -/
def NextLayer (next : String → List String) (start x y : String) : Prop :=
  away next start x ≤ away next start y ∧ away next start y ≤ away next start x + 1

theorem le_of_head {ids : List String} (h : ids.Pairwise (NextLayer next start)) {x y : String}
    (hx : x ∈ ids.head?) (hy : y ∈ ids) : away next start x ≤ away next start y := by
  cases ids with
  | nil => exact absurd hy List.not_mem_nil
  | cons id ids =>
    obtain rfl : id = x := by simpa using hx
    rcases List.mem_cons.mp hy with rfl | hy
    · exact le_rfl
    · exact (List.rel_of_pairwise_cons h hy).1

/-- What holds of the queue and of the unseen ids between two visits of a search. -/
structure Layered (next : String → List String) (start : String) (unseen queue : List String) :
    Prop where
  /-- The queue goes from one layer to the next. -/
  sorted : queue.Pairwise (NextLayer next start)
  /-- What is in the queue can be reached. -/
  reached : ∀ x ∈ queue, Reaches next start x
  /-- Unseen ids are further away than the one that is visited next. -/
  further : ∀ x ∈ queue.head?, ∀ y ∈ unseen, Reaches next start y →
    away next start x < away next start y
  /-- Only from the queue do steps lead to unseen ids. -/
  frontier : ∀ x y, x ∉ unseen → x ∉ queue → y ∈ next x → y ∉ unseen
  /-- No unseen id is listed twice. -/
  nodup : unseen.Nodup

namespace Layered

/-- A search begins with the start in the queue, which is no step away from itself. -/
theorem init (hnd : unseen.Nodup) (hclosed : Closed next unseen) (start : String) :
    Layered next start (unseen.erase start) [start] where
  sorted := List.pairwise_singleton _ _
  reached := by
    intro x hx
    rw [List.mem_singleton.mp hx]
    exact Relation.ReflTransGen.refl
  further := by
    intro x hx y hy hreach
    obtain rfl : start = x := by simpa using hx
    have hne : start ≠ y := by
      rintro rfl
      exact hnd.not_mem_erase hy
    have hself : away next start start = 0 := distance_self _ start
    obtain ⟨p, _, _, hdist : away next start y = away next start p + 1⟩ :=
      exists_step_nearer hreach hne
    omega
  frontier := by
    intro x y hx hqueue hstep hy
    have hne : x ≠ start := fun heq => hqueue (List.mem_singleton.mpr heq)
    have hunseen : x ∉ unseen := fun hmem => hx ((List.mem_erase_of_ne hne).mpr hmem)
    exact hclosed x y hunseen hstep (List.mem_of_mem_erase hy)
  nodup := hnd.erase start

/-- What is discovered on a visit is one step further away than what is visited. -/
theorem away_of_discovered {id : String} (h : Layered next start unseen (id :: queue)) {y : String}
    (hy : y ∈ (discover (next id) unseen).1) :
    Reaches next start y ∧ away next start y = away next start id + 1 := by
  have hid : Reaches next start id := h.reached id List.mem_cons_self
  have hstep : y ∈ next id := mem_of_mem_discover hy
  have hunseen : y ∈ unseen :=
    (discover_perm (next id) unseen).subset (List.mem_append_left _ hy)
  have hreach : Reaches next start y := hid.tail hstep
  have hle : away next start y ≤ away next start id + 1 := distance_step_le hid hstep
  have hlt := h.further id rfl y hunseen hreach
  exact ⟨hreach, by omega⟩

/-- On a visit the queue loses its first id and gains some of the layer after that one. -/
theorem sorted_visit {id : String} (h : Layered next start unseen (id :: queue)) :
    (queue ++ (discover (next id) unseen).1).Pairwise (NextLayer next start) := by
  have hqueue := List.pairwise_cons.mp h.sorted
  rw [List.pairwise_append]
  refine ⟨hqueue.2, List.pairwise_of_forall_mem_list fun x hx y hy => ?_, fun x hx y hy => ?_⟩
  · have hx' := (h.away_of_discovered hx).2
    have hy' := (h.away_of_discovered hy).2
    unfold NextLayer
    omega
  · have hx' : NextLayer next start id x := hqueue.1 x hx
    have hy' := (h.away_of_discovered hy).2
    unfold NextLayer at hx' ⊢
    omega

/-- An unseen id that is one step further away than the one visited hangs on the queue. -/
theorem exists_waiting {id : String} (h : Layered next start unseen (id :: queue)) {y : String}
    (hy : y ∈ unseen) (hreach : Reaches next start y)
    (hdist : away next start y = away next start id + 1) :
    ∃ p ∈ id :: queue, y ∈ next p ∧ away next start p = away next start id := by
  have hne : start ≠ y := by
    rintro rfl
    have hself : away next start start = 0 := distance_self _ start
    omega
  obtain ⟨p, hp, hstep, hlast : away next start y = away next start p + 1⟩ :=
    exists_step_nearer hreach hne
  -- an unseen id would be further away
  have hseen : p ∉ unseen := by
    intro hmem
    have hlt := h.further id rfl p hmem hp
    omega
  have hwaiting : p ∈ id :: queue := by
    by_contra hgone
    exact h.frontier p y hseen hgone hstep hy
  exact ⟨p, hwaiting, hstep, by omega⟩

/-- **A visit preserves the layers.** -/
theorem visit {id : String} (h : Layered next start unseen (id :: queue)) :
    Layered next start (discover (next id) unseen).2
      (queue ++ (discover (next id) unseen).1) := by
  have hperm := discover_perm (next id) unseen
  have hrest : ∀ {y}, y ∈ (discover (next id) unseen).2 → y ∈ unseen :=
    fun hy => hperm.subset (List.mem_append_right _ hy)
  constructor
  case sorted => exact h.sorted_visit
  case reached =>
    intro x hx
    rcases List.mem_append.mp hx with hx | hx
    · exact h.reached x (List.mem_cons_of_mem _ hx)
    · exact (h.away_of_discovered hx).1
  case further =>
    intro x hx y hy hreach
    have hlt := h.further id rfl y (hrest hy) hreach
    have hle : away next start x ≤ away next start id + 1 := by
      rcases List.mem_append.mp (List.mem_of_mem_head? hx) with hmem | hmem
      · exact (List.rel_of_pairwise_cons h.sorted hmem).2
      · exact (h.away_of_discovered hmem).2.le
    by_contra hnot
    -- it hangs on an id as far away as the one just visited, and none of these waits any more
    obtain ⟨p, hp, hstep, hsame⟩ := h.exists_waiting (hrest hy) hreach (by omega)
    rcases List.mem_cons.mp hp with rfl | hp
    · exact not_mem_of_discover h.nodup hstep hy
    · have hfirst := le_of_head h.sorted_visit hx (List.mem_append_left _ hp)
      omega
  case frontier =>
    intro x y hx hmem hstep hy
    by_cases hid : x = id
    · exact not_mem_of_discover h.nodup (hid ▸ hstep) hy
    · have hseen : x ∉ unseen := by
        intro hunseen
        rcases List.mem_append.mp (hperm.symm.subset hunseen) with hfound | hleft
        · exact hmem (List.mem_append_right _ hfound)
        · exact hx hleft
      have hwaiting : x ∉ id :: queue := by
        intro hwaiting
        rcases List.mem_cons.mp hwaiting with heq | hwaiting
        · exact hid heq
        · exact hmem (List.mem_append_left _ hwaiting)
      exact h.frontier x y hseen hwaiting hstep (hrest hy)
  case nodup => exact (List.nodup_append.mp (hperm.nodup_iff.mpr h.nodup)).2.1

/-- Nothing that is still visited is nearer than the id that is visited next. -/
theorem le_visited (h : Layered next start unseen queue) {x y : String}
    (hx : x ∈ queue.head?) (hy : y ∈ (search next unseen queue).1) :
    away next start x ≤ away next start y := by
  rcases List.mem_append.mp ((search_perm next unseen queue).subset (List.mem_append_left _ hy))
    with hqueue | hunseen
  · exact le_of_head h.sorted hx hqueue
  · obtain ⟨q, hq, hqy⟩ := search_reaches hy
    exact (h.further x hx y hunseen ((h.reached q hq).trans hqy)).le

/-- **Ids are visited in the order of their distance.** -/
theorem sorted_search (h : Layered next start unseen queue) :
    (search next unseen queue).1.Pairwise fun x y => away next start x ≤ away next start y := by
  induction unseen, queue using search.induct next with
  | case1 unseen =>
    rw [search]
    exact List.Pairwise.nil
  | case2 unseen id queue found rest _ _ _ ih =>
    have hlater : ∀ y ∈ (search next unseen (id :: queue)).1,
        away next start id ≤ away next start y := fun y hy => h.le_visited rfl hy
    rw [search_cons] at hlater ⊢
    exact List.pairwise_cons.mpr
      ⟨fun y hy => hlater y (List.mem_cons_of_mem _ hy), ih h.visit⟩

end Layered

/-! ## Starts -/

/-- How a component is found: from a start that is unseen, when the starts before it are seen. -/
structure Found (next : String → List String) (before : List String) (start : String)
    (unseen c : List String) : Prop where
  /-- The start is unseen. -/
  fresh : start ∈ unseen
  /-- The starts before it are not. -/
  seen : ∀ id ∈ before, id ∉ unseen
  /-- Nothing else leads to unseen ids. -/
  closed : Closed next unseen
  /-- No unseen id is listed twice. -/
  nodup : unseen.Nodup
  /-- The component is what a search from the start visits. -/
  eq : c = (search next (unseen.erase start) [start]).1

theorem exists_found (hsymm : ∀ {x y}, y ∈ next x → x ∈ next y) (hnd : unseen.Nodup)
    (hclosed : Closed next unseen) {starts c : List String}
    (hc : c ∈ searchAll next unseen starts) :
    ∃ before start after left, starts = before ++ start :: after ∧ (∀ id ∈ left, id ∈ unseen)
      ∧ Found next before start left c := by
  induction starts generalizing unseen with
  | nil => exact absurd hc (by simp [searchAll])
  | cons start starts ih =>
    -- a start that is seen now stays seen, so it may go before those of a later search
    have hlater : ∀ {rest : List String}, (∀ id ∈ rest, id ∈ unseen) → start ∉ rest →
        (∃ before start' after left, starts = before ++ start' :: after
          ∧ (∀ id ∈ left, id ∈ rest) ∧ Found next before start' left c) →
        ∃ before start' after left, start :: starts = before ++ start' :: after
          ∧ (∀ id ∈ left, id ∈ unseen) ∧ Found next before start' left c := by
      rintro rest hrest hseen ⟨before, start', after, left, rfl, hleft, hfound⟩
      refine ⟨start :: before, start', after, left, rfl, fun id hid => hrest id (hleft id hid),
        hfound.fresh, ?_, hfound.closed, hfound.nodup, hfound.eq⟩
      intro id hid hmem
      rcases List.mem_cons.mp hid with rfl | hid
      · exact hseen (hleft id hmem)
      · exact hfound.seen id hid hmem
    unfold searchAll at hc
    split at hc
    · rename_i hcontains
      have hstart : start ∈ unseen := List.contains_iff_mem.mp hcontains
      have hfirst := explored_search hsymm hnd hclosed hstart
      have hrest : (search next (unseen.erase start) [start]).2.Nodup :=
        (List.nodup_append.mp (hfirst.perm.nodup_iff.mpr hnd)).2.1
      rcases List.mem_cons.mp hc with rfl | hc
      · exact ⟨[], start, starts, unseen, rfl, fun id hid => hid, hstart, by simp, hclosed, hnd,
          rfl⟩
      · exact hlater (fun id hid => List.mem_of_mem_erase (search_left hid))
          (fun hmem => hnd.not_mem_erase (search_left hmem)) (ih hrest hfirst.closed hc)
    · rename_i hcontains
      have hstart : start ∉ unseen := fun hmem => hcontains (List.contains_iff_mem.mpr hmem)
      exact hlater (fun id hid => hid) hstart (ih hnd hclosed hc)

namespace Found

variable {before c : List String}

theorem head?_eq (h : Found next before start unseen c) : c.head? = some start := by
  rw [h.eq, search_cons]
  rfl

theorem mem_unseen (h : Found next before start unseen c) {x : String} (hx : x ∈ c) :
    x ∈ unseen := by
  have hperm := search_perm next (unseen.erase start) [start]
  rw [h.eq] at hx
  rcases List.mem_cons.mp (hperm.subset (List.mem_append_left _ hx)) with rfl | hx
  · exact h.fresh
  · exact List.mem_of_mem_erase hx

/-- Of all starts, the first one in the component is the one it was found from. -/
theorem find?_eq (h : Found next before start unseen c) (after : List String) :
    (before ++ start :: after).find? (fun id => c.contains id) = some start := by
  have hnone : before.find? (fun id => c.contains id) = none := by
    rw [List.find?_eq_none]
    intro id hid hmem
    exact h.seen id hid (h.mem_unseen (List.contains_iff_mem.mp hmem))
  have hstart : c.contains start = true :=
    List.contains_iff_mem.mpr (List.mem_of_mem_head? h.head?_eq)
  rw [List.find?_append, hnone, Option.none_or, List.find?_cons_of_pos hstart]

theorem reaches (h : Found next before start unseen c) {x : String} (hx : x ∈ c) :
    Reaches next start x := by
  rw [h.eq] at hx
  obtain ⟨q, hq, hqx⟩ := search_reaches hx
  rw [List.mem_singleton.mp hq] at hqx
  exact hqx

theorem sorted (h : Found next before start unseen c) :
    c.Pairwise fun x y => away next start x ≤ away next start y := by
  rw [h.eq]
  exact (Layered.init h.nodup h.closed start).sorted_search

end Found

/-- The components that are found start with starts, in the order of these. -/
theorem heads_sublist (next : String → List String) (unseen starts : List String) :
    ((searchAll next unseen starts).filterMap List.head?).Sublist starts := by
  induction starts generalizing unseen with
  | nil => exact List.Sublist.slnil
  | cons start starts ih =>
    unfold searchAll
    split
    · rw [search_cons]
      exact (ih _).cons_cons start
    · exact (ih unseen).cons start

end Analytics

namespace Store

open Analytics

variable {s : Store} {types : List String}

/-- What the order of components, and of the nodes in them, is to be. -/
structure IsBreadthFirst (s : Store) (types : List String) (cs : List (List String)) : Prop where
  /-- A component starts with the one of its nodes that was added first. -/
  earliest : ∀ c ∈ cs, ∃ first, c.head? = some first
    ∧ s.nodes.keys.find? (fun id => c.contains id) = some first
  /-- Components are listed in the order in which these were added. -/
  ordered : (cs.filterMap List.head?).Sublist s.nodes.keys
  /-- A node of a component is as many hops from the first one as a shortest path has, -/
  reached : ∀ c ∈ cs, ∀ first ∈ c.head?, ∀ x ∈ c,
    Hops (s.Adjacent types) first (distance (s.Adjacent types) first x) x
  /-- and no node is nearer to it than a node listed before. -/
  layered : ∀ c ∈ cs, ∀ first ∈ c.head?, c.Pairwise fun x y =>
    distance (s.Adjacent types) first x ≤ distance (s.Adjacent types) first y

/--
**Components are listed breadth first.** In every store that can be reached, each component starts
with its node that was added first, the components come in the order of these nodes, and within a
component nodes come by their distance from the first one, along relationships in either direction.
-/
theorem components_isBreadthFirst (h : Reachable s) (types : List String) :
    s.IsBreadthFirst types (components s.snapshot types) := by
  have hids : s.snapshot.nodeIds = s.nodes.keys := (sound_of_reachable h).nodeIds_eq
  have hfound : ∀ c ∈ components s.snapshot types, ∃ before start after unseen,
      s.nodes.keys = before ++ start :: after
        ∧ Found (adjacent (ofTypes types s.snapshot.relationships)) before start unseen c := by
    intro c hc
    obtain ⟨before, start, after, unseen, hkeys, -, hfound⟩ := exists_found
      (fun hxy => adjacent_symm hxy)
      (nodup_idsOf s.snapshot.nodeIds (ofTypes types s.snapshot.relationships))
      (closed_idsOf _ _) hc
    exact ⟨before, start, after, unseen, hids.symm.trans hkeys, hfound⟩
  have haway : away (adjacent (ofTypes types s.snapshot.relationships))
      = distance (s.Adjacent types) := by
    unfold away
    rw [adjacent_ofTypes]
  constructor
  case earliest =>
    intro c hc
    obtain ⟨before, start, after, unseen, hkeys, hfound⟩ := hfound c hc
    exact ⟨start, hfound.head?_eq, hkeys ▸ hfound.find?_eq after⟩
  case ordered =>
    rw [← hids]
    exact heads_sublist _ _ _
  case reached =>
    intro c hc first hfirst x hx
    obtain ⟨before, start, after, unseen, hkeys, hfound⟩ := hfound c hc
    obtain rfl : start = first := Option.some.inj (hfound.head?_eq.symm.trans hfirst)
    exact hops_distance (reaches_iff.mp (hfound.reaches hx))
  case layered =>
    intro c hc first hfirst
    obtain ⟨before, start, after, unseen, hkeys, hfound⟩ := hfound c hc
    obtain rfl : start = first := Option.some.inj (hfound.head?_eq.symm.trans hfirst)
    rw [← haway]
    exact hfound.sorted

/-- Two nodes joined both ways, and one with a self-loop. -/
theorem components_isBreadthFirst_sample :
    (sample ⟨true, true⟩).IsBreadthFirst [] (components (sample ⟨true, true⟩).snapshot []) :=
  components_isBreadthFirst (Reachable.sample ⟨true, true⟩) []

end Store

end PropertyGraph
