import Mathlib.Logic.Relation
import PropertyGraph.Analytics.Components
import PropertyGraph.Proofs.Sound

/-!
# Components are the classes of connected nodes

The search keeps two lists of ids, and every step moves ids from one to the other, so what is
visited and what is left make up what there was: `search_perm`. When it is done, no neighbour of a
visited id is left: `search_next`. And whatever it visits can be reached from where it started:
`search_reaches`.

A search that starts among ids that nothing outside leads to visits exactly what its start reaches,
and leaves ids that nothing outside leads to. So the searches of all starts in turn cut the ids into
classes, and in a sound store these ids are those of the nodes.
-/

namespace PropertyGraph

namespace Analytics

variable {next : String → List String} {unseen queue : List String}

/-! ## Discovering -/

theorem discover_perm (ids unseen : List String) :
    ((discover ids unseen).1 ++ (discover ids unseen).2).Perm unseen := by
  induction ids generalizing unseen with
  | nil => exact List.Perm.refl unseen
  | cons id ids ih =>
    unfold discover
    split
    · rename_i h
      have hmem : id ∈ unseen := List.contains_iff_mem.mp h
      exact ((ih (unseen.erase id)).cons id).trans (List.perm_cons_erase hmem).symm
    · exact ih unseen

theorem mem_of_mem_discover {ids unseen : List String} {x : String}
    (h : x ∈ (discover ids unseen).1) : x ∈ ids := by
  induction ids generalizing unseen with
  | nil => exact absurd h (by simp [discover])
  | cons id ids ih =>
    unfold discover at h
    split at h
    · rcases List.mem_cons.mp h with rfl | h
      · exact List.mem_cons_self
      · exact List.mem_cons_of_mem _ (ih h)
    · exact List.mem_cons_of_mem _ (ih h)

/-- Nothing that was looked for stays unseen. -/
theorem not_mem_of_discover {ids unseen : List String} (hnd : unseen.Nodup) {x : String}
    (h : x ∈ ids) : x ∉ (discover ids unseen).2 := by
  induction ids generalizing unseen with
  | nil => exact absurd h (by simp)
  | cons id ids ih =>
    have hsub : ∀ unseen : List String, x ∈ (discover ids unseen).2 → x ∈ unseen := by
      intro unseen hx
      exact (discover_perm ids unseen).subset (List.mem_append_right _ hx)
    unfold discover
    split
    · rcases List.mem_cons.mp h with rfl | h
      · intro hx
        exact hnd.not_mem_erase (hsub _ hx)
      · exact ih (hnd.erase id) h
    · rename_i hnot
      rcases List.mem_cons.mp h with rfl | h
      · intro hx
        exact hnot (List.contains_iff_mem.mpr (hsub _ hx))
      · exact ih hnd h

/-! ## Searching -/

/-- One id leads to another if steps to neighbours do. -/
def Reaches (next : String → List String) : String → String → Prop :=
  Relation.ReflTransGen fun x y => y ∈ next x

theorem search_cons (next : String → List String) (unseen queue : List String) (id : String) :
    search next unseen (id :: queue)
      = (id :: (search next (discover (next id) unseen).2
            (queue ++ (discover (next id) unseen).1)).1,
          (search next (discover (next id) unseen).2
            (queue ++ (discover (next id) unseen).1)).2) := by
  rw [search]

/-- The search visits what is in the queue or unseen, and leaves the rest, with no id twice. -/
theorem search_perm (next : String → List String) (unseen queue : List String) :
    ((search next unseen queue).1 ++ (search next unseen queue).2).Perm (queue ++ unseen) := by
  induction unseen, queue using search.induct next with
  | case1 unseen => rw [search]
  | case2 unseen id queue found rest _ _ _ ih =>
    rw [search_cons, List.cons_append, List.cons_append]
    rw [List.append_assoc] at ih
    exact (ih.trans ((discover_perm (next id) unseen).append_left queue)).cons id

theorem search_left {x : String} (h : x ∈ (search next unseen queue).2) : x ∈ unseen := by
  induction unseen, queue using search.induct next with
  | case1 unseen =>
    rw [search] at h
    exact h
  | case2 unseen id queue found rest _ _ _ ih =>
    rw [search_cons] at h
    exact (discover_perm (next id) unseen).subset (List.mem_append_right _ (ih h))

/-- No neighbour of a visited id is left. -/
theorem search_next (hnd : unseen.Nodup) {x y : String} (hx : x ∈ (search next unseen queue).1)
    (hy : y ∈ next x) : y ∉ (search next unseen queue).2 := by
  induction unseen, queue using search.induct next with
  | case1 unseen =>
    rw [search] at hx
    exact absurd hx (by simp)
  | case2 unseen id queue found rest _ _ _ ih =>
    rw [search_cons] at hx ⊢
    rcases List.mem_cons.mp hx with rfl | hx
    · -- its neighbours were discovered when it was visited
      intro hleft
      exact not_mem_of_discover hnd hy (search_left hleft)
    · have hperm := discover_perm (next id) unseen
      have hrest : rest.Nodup := (List.nodup_append.mp (hperm.nodup_iff.mpr hnd)).2.1
      exact ih hrest hx

theorem search_reaches {x : String} (h : x ∈ (search next unseen queue).1) :
    ∃ q ∈ queue, Reaches next q x := by
  induction unseen, queue using search.induct next with
  | case1 unseen =>
    rw [search] at h
    exact absurd h (by simp)
  | case2 unseen id queue found rest _ _ _ ih =>
    rw [search_cons] at h
    rcases List.mem_cons.mp h with rfl | h
    · exact ⟨x, List.mem_cons_self, Relation.ReflTransGen.refl⟩
    · obtain ⟨q, hq, hqx⟩ := ih h
      rcases List.mem_append.mp hq with hq | hq
      · exact ⟨q, List.mem_cons_of_mem _ hq, hqx⟩
      · -- it came into the queue as a neighbour
        exact ⟨id, List.mem_cons_self, hqx.head (mem_of_mem_discover hq)⟩

/-! ## Single components -/

/-- Nothing but unseen ids leads to an unseen id. -/
def Closed (next : String → List String) (unseen : List String) : Prop :=
  ∀ x y, x ∉ unseen → y ∈ next x → y ∉ unseen

/-- What the search from an unseen id comes to: the ids it reaches, and the others. -/
structure Explored (next : String → List String) (unseen : List String) (start : String)
    (component rest : List String) : Prop where
  /-- The component and the rest make up the unseen ids. -/
  perm : (component ++ rest).Perm unseen
  /-- The component is what the start reaches. -/
  mem_iff : ∀ x, x ∈ component ↔ Reaches next start x
  /-- Nothing leads from the component to the rest. -/
  closed : Closed next rest

/-- **A search visits what its start reaches**, if neighbours are neighbours of each other. -/
theorem explored_search (hsymm : ∀ {x y}, y ∈ next x → x ∈ next y) (hnd : unseen.Nodup)
    (hclosed : Closed next unseen) {start : String} (hstart : start ∈ unseen) :
    Explored next unseen start (search next (unseen.erase start) [start]).1
      (search next (unseen.erase start) [start]).2 := by
  have hperm : ((search next (unseen.erase start) [start]).1
      ++ (search next (unseen.erase start) [start]).2).Perm unseen :=
    (search_perm next (unseen.erase start) [start]).trans (List.perm_cons_erase hstart).symm
  have hnext : ∀ {x y}, x ∈ (search next (unseen.erase start) [start]).1 → y ∈ next x →
      y ∉ (search next (unseen.erase start) [start]).2 := search_next (hnd.erase start)
  have hvisited : ∀ {x}, x ∈ unseen → x ∉ (search next (unseen.erase start) [start]).2 →
      x ∈ (search next (unseen.erase start) [start]).1 := by
    intro x hx hnot
    rcases List.mem_append.mp (hperm.symm.subset hx) with h | h
    · exact h
    · exact absurd h hnot
  refine ⟨hperm, fun x => ⟨fun hx => ?_, fun hx => ?_⟩, ?_⟩
  · obtain ⟨q, hq, hqx⟩ := search_reaches hx
    rw [List.mem_singleton.mp hq] at hqx
    exact hqx
  · induction hx with
    | refl => exact hvisited hstart fun h => hnd.not_mem_erase (search_left h)
    | @tail y z _ hyz ih =>
      -- a neighbour of a visited id was unseen, or it would lead out of what has been seen
      have hy : y ∈ unseen := hperm.subset (List.mem_append_left _ ih)
      have hz : z ∈ unseen := by
        by_contra hz
        exact hclosed z y hz (hsymm hyz) hy
      exact hvisited hz (hnext ih hyz)
  · -- what is seen now was visited, or had been seen before
    intro x y hx hy hleft
    by_cases hmem : x ∈ unseen
    · exact hnext (hvisited hmem hx) hy hleft
    · exact hclosed x y hmem hy (List.mem_of_mem_erase (search_left hleft))

/-! ## All components -/

/--
The components found from some starts are parts of the unseen ids, without overlap; each is what
some id in it reaches, and no start is left over.
-/
theorem searchAll_spec (hsymm : ∀ {x y}, y ∈ next x → x ∈ next y) (hnd : unseen.Nodup)
    (hclosed : Closed next unseen) (starts : List String) :
    ∃ rest, ((searchAll next unseen starts).flatten ++ rest).Perm unseen
      ∧ (∀ start ∈ starts, start ∉ rest)
      ∧ ∀ c ∈ searchAll next unseen starts, ∃ start ∈ c, ∀ x, x ∈ c ↔ Reaches next start x := by
  induction starts generalizing unseen with
  | nil => exact ⟨unseen, List.Perm.refl _, by simp, by simp [searchAll]⟩
  | cons start starts ih =>
    unfold searchAll
    split
    · rename_i hcontains
      have hstart : start ∈ unseen := List.contains_iff_mem.mp hcontains
      have hfirst := explored_search hsymm hnd hclosed hstart
      generalize search next (unseen.erase start) [start] = found at hfirst
      obtain ⟨component, left⟩ := found
      dsimp only at hfirst ⊢
      have hboth := List.nodup_append.mp (hfirst.perm.nodup_iff.mpr hnd)
      obtain ⟨rest, hperm, hstarts, hcs⟩ := ih hboth.2.1 hfirst.closed
      have hmem : start ∈ component := (hfirst.mem_iff start).mpr Relation.ReflTransGen.refl
      -- the later searches share out what the first one left
      refine ⟨rest, ?_, ?_, ?_⟩
      · rw [List.flatten_cons, List.append_assoc]
        exact (hperm.append_left component).trans hfirst.perm
      · intro s hs hrest
        rcases List.mem_cons.mp hs with rfl | hs
        · exact hboth.2.2 s hmem s (hperm.subset (List.mem_append_right _ hrest)) rfl
        · exact hstarts s hs hrest
      · intro c hc
        rcases List.mem_cons.mp hc with rfl | hc
        · exact ⟨start, hmem, hfirst.mem_iff⟩
        · exact hcs c hc
    · -- a start that has been seen is in a component already
      rename_i hcontains
      obtain ⟨rest, hperm, hstarts, hcs⟩ := ih hnd hclosed
      refine ⟨rest, hperm, ?_, hcs⟩
      intro s hs hrest
      rcases List.mem_cons.mp hs with rfl | hs
      · exact hcontains (List.contains_iff_mem.mpr
          (hperm.subset (List.mem_append_right _ hrest)))
      · exact hstarts s hs hrest

/-! ## Relationships as steps -/

/-- Whether a relationship is one of those that are followed. -/
def Passes (types : List String) (r : Relationship) : Prop := types = [] ∨ r.type ∈ types

instance {types : List String} {r : Relationship} : Decidable (Passes types r) :=
  inferInstanceAs (Decidable (types = [] ∨ r.type ∈ types))

theorem mem_ofTypes {types : List String} {rs : List Relationship} {r : Relationship} :
    r ∈ ofTypes types rs ↔ r ∈ rs ∧ Passes types r := by
  unfold ofTypes Passes
  cases types with
  | nil => simp
  | cons t ts => simp

/-- Whether a relationship has its ends at two ids, whichever is its source. -/
def Joins (r : Relationship) (x y : String) : Prop :=
  (r.source = x ∧ r.target = y) ∨ (r.target = x ∧ r.source = y)

instance {r : Relationship} {x y : String} : Decidable (Joins r x y) :=
  inferInstanceAs (Decidable ((r.source = x ∧ r.target = y) ∨ (r.target = x ∧ r.source = y)))

theorem Joins.symm {r : Relationship} {x y : String} (h : Joins r x y) : Joins r y x := by
  rcases h with ⟨h1, h2⟩ | ⟨h1, h2⟩
  · exact Or.inr ⟨h2, h1⟩
  · exact Or.inl ⟨h2, h1⟩

theorem mem_adjacent {rs : List Relationship} {x y : String} :
    y ∈ adjacent rs x ↔ ∃ r ∈ rs, Joins r x y := by
  unfold adjacent Joins
  rw [List.mem_flatMap]
  refine exists_congr fun r => and_congr_right fun _ => ?_
  rw [List.mem_append]
  by_cases hs : r.source = x
  · by_cases ht : r.target = x
    · simp [hs, ht, eq_comm]
    · simp [hs, ht, eq_comm]
  · by_cases ht : r.target = x
    · simp [hs, ht, eq_comm]
    · simp [hs, ht]

theorem adjacent_symm {rs : List Relationship} {x y : String} (h : y ∈ adjacent rs x) :
    x ∈ adjacent rs y := by
  obtain ⟨r, hr, hj⟩ := mem_adjacent.mp h
  exact mem_adjacent.mpr ⟨r, hr, hj.symm⟩

theorem mem_idsOf {nodes : List String} {rs : List Relationship} {id : String} :
    id ∈ idsOf nodes rs ↔ id ∈ nodes ∨ ∃ r ∈ rs, id = r.source ∨ id = r.target := by
  unfold idsOf
  rw [List.mem_eraseDups, List.mem_append, List.mem_flatMap]
  simp

theorem nodup_idsOf (nodes : List String) (rs : List Relationship) : (idsOf nodes rs).Nodup :=
  OrderedMap.nodup_eraseDups _

/-- Nothing leads to an end of a relationship but the other end. -/
theorem closed_idsOf (nodes : List String) (rs : List Relationship) :
    Closed (adjacent rs) (idsOf nodes rs) := by
  intro x y hx hy
  obtain ⟨r, hr, hj⟩ := mem_adjacent.mp hy
  exfalso
  rcases hj with ⟨rfl, _⟩ | ⟨rfl, _⟩
  · exact hx (mem_idsOf.mpr (Or.inr ⟨r, hr, Or.inl rfl⟩))
  · exact hx (mem_idsOf.mpr (Or.inr ⟨r, hr, Or.inr rfl⟩))

/-! ## The components of a snapshot -/

section Snapshot

variable {g : Snapshot} {types : List String}

/-- Whether a relationship that is followed has its ends at two ids, whether nodes have these or
not. -/
def Linked (g : Snapshot) (types : List String) (x y : String) : Prop :=
  ∃ r ∈ g.relationships, Passes types r ∧ Joins r x y

/-- The steps of the searches are the relationships that are followed. -/
theorem adjacent_eq_linked (g : Snapshot) (types : List String) :
    (fun x y => y ∈ adjacent (ofTypes types g.relationships) x) = Linked g types := by
  funext x y
  rw [mem_adjacent]
  refine propext (exists_congr fun r => ?_)
  rw [mem_ofTypes, and_assoc]

/-- The components are parts of the ids that nodes and relationships have, without overlap; no node
is left over, and each component is what some id in it reaches. -/
theorem components_spec (g : Snapshot) (types : List String) :
    ∃ rest, ((components g types).flatten ++ rest).Perm
        (idsOf g.nodeIds (ofTypes types g.relationships))
      ∧ (∀ node ∈ g.nodeIds, node ∉ rest)
      ∧ ∀ c ∈ components g types, ∃ start ∈ c, ∀ x,
        x ∈ c ↔ Reaches (adjacent (ofTypes types g.relationships)) start x :=
  searchAll_spec (fun hxy => adjacent_symm hxy) (nodup_idsOf _ _) (closed_idsOf _ _) g.nodeIds

theorem nodup_components (g : Snapshot) (types : List String) :
    (components g types).flatten.Nodup := by
  obtain ⟨rest, hperm, -, -⟩ := components_spec g types
  exact (List.nodup_append.mp (hperm.nodup_iff.mpr (nodup_idsOf _ _))).1

/-- Every node is in a component. -/
theorem exists_component {id : String} (hid : id ∈ g.nodeIds) :
    ∃ c ∈ components g types, id ∈ c := by
  obtain ⟨rest, hperm, hnodes, -⟩ := components_spec g types
  rcases List.mem_append.mp (hperm.symm.subset (mem_idsOf.mpr (Or.inl hid))) with hmem | hmem
  · exact List.mem_flatten.mp hmem
  · exact absurd hmem (hnodes id hid)

end Snapshot

end Analytics

namespace Store

open Analytics

variable {s : Store} {types : List String}

/-- Whether a relationship that is followed joins two nodes. -/
def Adjacent (s : Store) (types : List String) (x y : String) : Prop :=
  ∃ r ∈ s.relationships.values, Passes types r ∧ Joins r x y

instance {x y : String} : Decidable (s.Adjacent types x y) :=
  inferInstanceAs (Decidable (∃ r ∈ s.relationships.values, Passes types r ∧ Joins r x y))

/-- Whether a path of relationships that are followed, in either direction, joins two nodes. -/
def Connected (s : Store) (types : List String) : String → String → Prop :=
  Relation.ReflTransGen (s.Adjacent types)

theorem Connected.symm {x y : String} (h : s.Connected types x y) : s.Connected types y x := by
  induction h with
  | refl => exact Relation.ReflTransGen.refl
  | tail _ hyz ih =>
    obtain ⟨r, hr, hpass, hj⟩ := hyz
    exact ih.head ⟨r, hr, hpass, hj.symm⟩

theorem adjacent_ofTypes :
    (fun x y => y ∈ adjacent (ofTypes types s.snapshot.relationships) x) = s.Adjacent types :=
  adjacent_eq_linked s.snapshot types

theorem reaches_iff {x y : String} :
    Reaches (adjacent (ofTypes types s.snapshot.relationships)) x y ↔ s.Connected types x y := by
  unfold Reaches Connected
  rw [adjacent_ofTypes]

/-- In a sound store the ids that the searches go through are those of the nodes. -/
theorem Sound.mem_idsOf_iff (h : s.Sound) {id : String} :
    id ∈ idsOf s.snapshot.nodeIds (ofTypes types s.snapshot.relationships)
      ↔ s.hasNode id = true := by
  have hids : s.snapshot.nodeIds = s.nodes.keys := h.nodeIds_eq
  rw [mem_idsOf, hids, hasNode_iff]
  constructor
  · rintro (hid | ⟨r, hr, hid⟩)
    · exact hid
    · -- an end of a relationship is a live node
      obtain ⟨k, hk⟩ := OrderedMap.mem_values.mp (mem_ofTypes.mp hr).1
      rcases hid with rfl | rfl
      · exact h.source_live (k, r) hk
      · exact h.target_live (k, r) hk
  · exact Or.inl

theorem Sound.exists_component (h : s.Sound) {x : String} (hx : s.hasNode x = true) :
    ∃ c ∈ components s.snapshot types, x ∈ c := by
  have hids : s.snapshot.nodeIds = s.nodes.keys := h.nodeIds_eq
  exact Analytics.exists_component (hids ▸ hasNode_iff.mp hx)

/-- A component is all that any of its nodes is connected to. -/
theorem mem_component_iff {c : List String} (hc : c ∈ components s.snapshot types) {x y : String}
    (hx : x ∈ c) : y ∈ c ↔ s.Connected types x y := by
  obtain ⟨_, _, _, hcs⟩ := components_spec s.snapshot types
  obtain ⟨start, -, hiff⟩ := hcs c hc
  have hstart : s.Connected types start x := reaches_iff.mp ((hiff x).mp hx)
  rw [hiff y, reaches_iff]
  exact ⟨fun hy => hstart.symm.trans hy, fun hxy => hstart.trans hxy⟩

/-- What the components of a store are to be. -/
structure IsPartition (s : Store) (types : List String) (cs : List (List String)) : Prop where
  /-- Every node is in one component, once, and nothing else is in any. -/
  once : ∀ id, cs.flatten.count id = if s.hasNode id then 1 else 0
  /-- No component is empty. -/
  nonempty : ∀ c ∈ cs, c ≠ []
  /-- A node shares a component with those that it is connected to, and with no others. -/
  together : ∀ x y, s.hasNode x = true →
    ((∃ c ∈ cs, x ∈ c ∧ y ∈ c) ↔ s.Connected types x y)

/--
**The components partition the nodes into classes of connected ones.** This holds in every store
that can be reached, whatever cycles, self-loops and parallel relationships it has.
-/
theorem components_isPartition (h : Reachable s) (types : List String) :
    s.IsPartition types (components s.snapshot types) := by
  have hs := sound_of_reachable h
  have hnd := nodup_idsOf s.snapshot.nodeIds (ofTypes types s.snapshot.relationships)
  obtain ⟨rest, hperm, hstarts, hcs⟩ := searchAll_spec (fun hxy => adjacent_symm hxy) hnd
    (closed_idsOf s.snapshot.nodeIds (ofTypes types s.snapshot.relationships)) s.snapshot.nodeIds
  have hnode : ∀ {id}, s.hasNode id = true → id ∈ s.snapshot.nodeIds := by
    intro id hid
    have hids : s.snapshot.nodeIds = s.nodes.keys := hs.nodeIds_eq
    rw [hids]
    exact hasNode_iff.mp hid
  constructor
  case once =>
    intro id
    have hcount : (components s.snapshot types).flatten.count id + rest.count id
        = (idsOf s.snapshot.nodeIds (ofTypes types s.snapshot.relationships)).count id := by
      rw [← List.count_append]
      exact hperm.count_eq id
    rw [hnd.count] at hcount
    by_cases hid : s.hasNode id = true
    · have hnone := List.count_eq_zero_of_not_mem (hstarts id (hnode hid))
      rw [if_pos (hs.mem_idsOf_iff.mpr hid), hnone] at hcount
      rw [if_pos hid]
      exact hcount
    · rw [if_neg fun hmem => hid (hs.mem_idsOf_iff.mp hmem)] at hcount
      rw [if_neg hid]
      omega
  case nonempty =>
    intro c hc
    obtain ⟨start, hmem, _⟩ := hcs c hc
    exact List.ne_nil_of_mem hmem
  case together =>
    intro x y hx
    constructor
    · rintro ⟨c, hc, hxc, hyc⟩
      obtain ⟨start, _, hiff⟩ := hcs c hc
      have hsx := reaches_iff.mp ((hiff x).mp hxc)
      have hsy := reaches_iff.mp ((hiff y).mp hyc)
      exact hsx.symm.trans hsy
    · intro hxy
      -- the component of `x` is all that its start reaches, so it has `y` as well
      have hmem : x ∈ (components s.snapshot types).flatten := by
        rcases List.mem_append.mp (hperm.symm.subset (hs.mem_idsOf_iff.mpr hx)) with hmem | hmem
        · exact hmem
        · exact absurd hmem (hstarts x (hnode hx))
      obtain ⟨c, hc, hxc⟩ := List.mem_flatten.mp hmem
      obtain ⟨start, _, hiff⟩ := hcs c hc
      have hsx := (hiff x).mp hxc
      exact ⟨c, hc, hxc, (hiff y).mpr (hsx.trans (reaches_iff.mpr hxy))⟩

/-- A relationship is followed against its direction. -/
theorem components_isPartition_sample :
    ∃ c ∈ components (sample ⟨true, true⟩).snapshot ["T"], "b" ∈ c ∧ "a" ∈ c :=
  ((components_isPartition (Reachable.sample ⟨true, true⟩) ["T"]).together "b" "a"
    (by decide)).mpr (Relation.ReflTransGen.single (by decide))

end Store

end PropertyGraph
