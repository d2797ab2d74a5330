import Mathlib.Algebra.Group.Action.Defs
import Mathlib.Algebra.Order.BigOperators.Group.List
import Mathlib.Combinatorics.Enumerative.DoubleCounting
import PropertyGraph.Analytics.Report
import PropertyGraph.Proofs.BreadthFirst
import PropertyGraph.Proofs.Degrees
import PropertyGraph.Proofs.Tally

/-!
# The figures of a report fit together

A report is put together from passes over the graph that know nothing of each other: it counts
types, tallies degrees and lists components. That its figures fit has three reasons. Tallies add up.
Components share out the nodes, so that there are at most as many as there are nodes, and enough for
the nodes if each is as large as the largest. And relationships lead from the first node of a
component to all others, which takes one for each of them: a node that is some steps away from the
first ones has a relationship to a node one step nearer, and no other node has the same
relationship for that. This is `length_le_of_reached`.
-/

namespace PropertyGraph

namespace Analytics

variable {rs : List Relationship} {heads : List String}

/-- How many relationships lead from the nearest of some heads to an id. -/
noncomputable def depth (rs : List Relationship) (heads : List String) (x : String) : Nat :=
  sInf {n | ∃ a ∈ heads, Hops (fun x y => y ∈ adjacent rs x) a n x}

/-- Whether a relationship leads to an id from one that is nearer to the heads. -/
def LeadsTo (rs : List Relationship) (heads : List String) (x : String) (r : Relationship) : Prop :=
  ∃ y, Joins r y x ∧ depth rs heads y < depth rs heads x

theorem exists_leadsTo {x : String} (hx : x ∉ heads)
    (hreach : ∃ a ∈ heads, Reaches (adjacent rs) a x) : ∃ r ∈ rs, LeadsTo rs heads x r := by
  have hsome : {n | ∃ a ∈ heads, Hops (fun x y => y ∈ adjacent rs x) a n x}.Nonempty := by
    obtain ⟨a, ha, hax⟩ := hreach
    obtain ⟨n, hn⟩ := exists_hops hax
    exact ⟨n, a, ha, hn⟩
  obtain ⟨a, ha, hpath⟩ := Nat.sInf_mem hsome
  -- a shortest path to the id is not empty, and its last step comes from one step nearer
  generalize hn : sInf {n | ∃ a ∈ heads, Hops (fun x y => y ∈ adjacent rs x) a n x} = n at hpath
  cases hpath with
  | none => exact absurd ha hx
  | @more m y _ hpath hstep =>
    obtain ⟨r, hr, hjoins⟩ := mem_adjacent.mp hstep
    have hnearer : depth rs heads y ≤ m := Nat.sInf_le ⟨a, ha, hpath⟩
    have hdepth : depth rs heads x = m + 1 := hn
    exact ⟨r, hr, y, hjoins, by omega⟩

/-- A relationship has two ends, of which at most one is further away than the other. -/
theorem LeadsTo.unique {x x' : String} {r : Relationship} (h : LeadsTo rs heads x r)
    (h' : LeadsTo rs heads x' r) : x = x' := by
  obtain ⟨y, hjoins, hlt⟩ := h
  obtain ⟨y', hjoins', hlt'⟩ := h'
  rcases hjoins with ⟨rfl, rfl⟩ | ⟨rfl, rfl⟩
  · rcases hjoins' with ⟨-, rfl⟩ | ⟨rfl, rfl⟩
    · rfl
    · omega
  · rcases hjoins' with ⟨rfl, rfl⟩ | ⟨-, rfl⟩
    · omega
    · rfl

/-- **Each relationship reaches at most one more id**, beyond the heads that are there. -/
theorem length_le_of_reached {ids : List String} (hnodup : ids.Nodup)
    (hreach : ∀ x ∈ ids, ∃ a ∈ heads, Reaches (adjacent rs) a x) :
    ids.length ≤ heads.length + rs.length := by
  have hothers : (ids.toFinset \ heads.toFinset).card ≤ rs.toFinset.card := by
    refine Finset.card_le_card_of_forall_subsingleton (LeadsTo rs heads) ?_ ?_
    · intro x hx
      simp only [Finset.mem_sdiff, List.mem_toFinset] at hx
      obtain ⟨r, hr, hleads⟩ := exists_leadsTo hx.2 (hreach x hx.1)
      exact ⟨r, List.mem_toFinset.mpr hr, hleads⟩
    · intro r _ x hx x' hx'
      exact hx.2.unique hx'.2
  have hheads := heads.toFinset_card_le
  have hrs := rs.toFinset_card_le
  have hids := List.toFinset_card_of_nodup hnodup
  have hsplit := Finset.le_card_sdiff heads.toFinset ids.toFinset
  omega

/-- Lists that are not empty have no more items than there are in them together. -/
theorem length_le_flatten {cs : List (List String)} (hne : ∀ c ∈ cs, c ≠ []) :
    cs.length ≤ cs.flatten.length := by
  have hpos : ∀ n ∈ cs.map List.length, 1 ≤ n :=
    List.forall_mem_map.mpr fun c hc => List.length_pos_iff.mpr (hne c hc)
  have hle := List.length_le_sum_of_one_le _ hpos
  rwa [List.length_map, ← List.length_flatten] at hle

/-- Lists have no more items together than if each were as long as the longest. -/
theorem flatten_le_max (cs : List (List String)) :
    cs.flatten.length ≤ (cs.map List.length).max?.getD 0 * cs.length := by
  have hle : ∀ n ∈ cs.map List.length, n ≤ (cs.map List.length).max?.getD 0 := by
    intro n hn
    obtain ⟨top, htop⟩ := Option.ne_none_iff_exists'.mp
      (mt List.max?_eq_none_iff.mp (List.ne_nil_of_mem hn))
    rw [htop]
    exact (List.max?_eq_some_iff.mp htop).2 n hn
  have hsum := List.sum_le_card_nsmul _ _ hle
  rwa [← List.length_flatten, List.length_map, smul_eq_mul, Nat.mul_comm] at hsum

end Analytics

namespace Store

open Analytics

variable {s : Store}

/-- What the figures of a report are to be. -/
structure FitsReport (s : Store) (r : Report) : Prop where
  /-- The counts are those of the statistics, -/
  stats : r.stats = s.stats
  /-- which count all nodes and relationships -/
  nodes : r.stats.nodeCount = s.nodes.size
  relationships : r.stats.relationshipCount = s.relationships.size
  /-- and the types of them. -/
  nodeTypes : Counts r.stats.nodeTypes (s.nodes.values.map Node.type)
  relationshipTypes :
    Counts r.stats.relationshipTypes (s.relationships.values.map Relationship.type)
  /-- The counts of types add up to those of nodes and of relationships. -/
  nodeTotal : r.stats.nodeTypes.values.sum = r.stats.nodeCount
  relationshipTotal : r.stats.relationshipTypes.values.sum = r.stats.relationshipCount
  /-- Every node has one of the degrees that are counted, -/
  degrees : r.degreeCounts.values.sum = r.stats.nodeCount
  /-- and every relationship adds two to them. -/
  ends : (r.degreeCounts.entries.map fun e => e.1 * e.2).sum = 2 * r.stats.relationshipCount
  /-- Degrees are listed from the highest to the lowest. -/
  descending : r.degreeCounts.keys.Pairwise fun a b => b < a
  extremes : 0 < r.stats.nodeCount → r.degreeCounts.keys.head? = some r.maxDegree
    ∧ r.degreeCounts.keys.getLast? = some r.minDegree
  /-- Each relationship can make one component of two, and no component is empty. -/
  enough : r.stats.nodeCount ≤ r.componentCount + r.stats.relationshipCount
  few : r.componentCount ≤ r.stats.nodeCount
  /-- No component is larger than the largest. -/
  largest : r.stats.nodeCount ≤ r.largestComponent * r.componentCount
  /-- The graph hangs together if paths join all its nodes. -/
  connected : r.isConnected = true
    ↔ ∀ x y, s.hasNode x = true → s.hasNode y = true → s.Connected [] x y

/-- Components share out the nodes. -/
theorem Sound.components_perm (hs : s.Sound) (types : List String) :
    (components s.snapshot types).flatten.Perm s.nodes.keys := by
  obtain ⟨rest, hperm, -, -⟩ := components_spec s.snapshot types
  refine (List.perm_ext_iff_of_nodup (nodup_components s.snapshot types)
    s.nodes.nodup_keys).mpr fun id => ⟨?_, ?_⟩
  · intro hid
    exact hasNode_iff.mp (hs.mem_idsOf_iff.mp (hperm.subset (List.mem_append_left _ hid)))
  · intro hid
    exact List.mem_flatten.mpr (hs.exists_component (hasNode_iff.mpr hid))

theorem Sound.hasNode_of_component (hs : s.Sound) {types c : List String}
    (hc : c ∈ components s.snapshot types) {x : String} (hx : x ∈ c) : s.hasNode x = true :=
  hasNode_iff.mpr ((hs.components_perm types).subset (List.mem_flatten.mpr ⟨c, hc, hx⟩))

/-- A component starts with what its search started from. -/
theorem component_ne_nil {types c : List String} (hc : c ∈ components s.snapshot types) :
    c ≠ [] := by
  obtain ⟨_, _, _, hcs⟩ := components_spec s.snapshot types
  obtain ⟨start, hstart, -⟩ := hcs c hc
  exact List.ne_nil_of_mem hstart

/-- There is at most one component exactly if no two nodes are apart. -/
theorem Sound.length_components_le_one_iff (hs : s.Sound) {types : List String} :
    (components s.snapshot types).length ≤ 1
      ↔ ∀ x y, s.hasNode x = true → s.hasNode y = true → s.Connected types x y := by
  constructor
  · intro hle x y hx hy
    have hfound : ∀ z, s.hasNode z = true → ∃ c ∈ components s.snapshot types, z ∈ c :=
      fun z hz => hs.exists_component hz
    obtain ⟨c, hc, hxc⟩ := hfound x hx
    obtain ⟨d, hd, hyd⟩ := hfound y hy
    obtain rfl : c = d := by
      obtain ⟨i, hi, rfl⟩ := List.getElem_of_mem hc
      obtain ⟨j, hj, rfl⟩ := List.getElem_of_mem hd
      congr 1
      omega
    exact (mem_component_iff hc hxc).mp hyd
  · intro hall
    have hnodup := (hs.components_perm types).nodup_iff.mpr s.nodes.nodup_keys
    by_contra hlt
    have hfirst : 0 < (components s.snapshot types).length := by omega
    have hsecond : 1 < (components s.snapshot types).length := by omega
    -- a node of the first would be in the second, but they are disjoint
    have hapart := List.pairwise_iff_getElem.mp (List.nodup_flatten.mp hnodup).2 0 1 hfirst hsecond
      Nat.one_pos
    have hc := List.getElem_mem hfirst
    have hd := List.getElem_mem hsecond
    obtain ⟨x, hx⟩ := List.exists_mem_of_ne_nil _ (component_ne_nil hc)
    obtain ⟨y, hy⟩ := List.exists_mem_of_ne_nil _ (component_ne_nil hd)
    have hpath := hall x y (hs.hasNode_of_component hc hx) (hs.hasNode_of_component hd hy)
    exact hapart ((mem_component_iff hc hx).mpr hpath) hy

/-- Each component is reached from its first node. -/
theorem Sound.length_le_components (hs : s.Sound) (types : List String) :
    s.nodes.size ≤ (components s.snapshot types).length
      + (ofTypes types s.snapshot.relationships).length := by
  have hreach : ∀ x ∈ s.nodes.keys, ∃ a ∈ (components s.snapshot types).filterMap List.head?,
      Reaches (adjacent (ofTypes types s.snapshot.relationships)) a x := by
    intro x hx
    obtain ⟨c, hc, hxc⟩ : ∃ c ∈ components s.snapshot types, x ∈ c :=
      hs.exists_component (hasNode_iff.mpr hx)
    cases c with
    | nil => exact absurd hxc List.not_mem_nil
    | cons a c =>
      have hpath := (mem_component_iff hc List.mem_cons_self).mp hxc
      exact ⟨a, List.mem_filterMap.mpr ⟨a :: c, hc, rfl⟩, reaches_iff.mpr hpath⟩
  have hle : s.nodes.keys.length ≤ _ := length_le_of_reached s.nodes.nodup_keys hreach
  have hheads := List.length_filterMap_le List.head? (components s.snapshot types)
  rw [s.nodes.length_keys] at hle
  omega

theorem Sound.degrees_descending (hs : s.Sound) (types : List String) :
    ((degrees s.snapshot types none).map NodeDegree.degree).Pairwise fun a b => b ≤ a := by
  rw [List.pairwise_map]
  refine (hs.degrees_pairwise types).imp ?_
  omega

/--
**The figures of a report fit together.** In every store that can be reached, the counts of types
and the degrees add up, the components are neither too many nor too few for the nodes and
relationships, and the graph is called connected exactly if paths join all its nodes.
-/
theorem fitsReport_of_reachable (h : Reachable s) :
    s.FitsReport (Report.ofSnapshot s.snapshot) := by
  have hs := sound_of_reachable h
  have hnodes : (Report.ofSnapshot s.snapshot).stats.nodeCount = s.nodes.size :=
    s.nodes.length_values
  have hrelationships : (Report.ofSnapshot s.snapshot).stats.relationshipCount
      = (ofTypes [] s.snapshot.relationships).length := rfl
  have hcomponents : (Report.ofSnapshot s.snapshot).componentCount
      = (components s.snapshot []).length := List.length_map _
  have hflatten : (components s.snapshot []).flatten.length = s.nodes.size := by
    rw [(hs.components_perm []).length_eq, s.nodes.length_keys]
  have hdegrees : ((degrees s.snapshot [] none).map NodeDegree.degree).length = s.nodes.size := by
    rw [List.length_map, hs.length_degrees]
  constructor
  case stats => rfl
  case nodes => exact hnodes
  case relationships => exact s.relationships.length_values
  case nodeTypes => exact counts_tally _
  case relationshipTypes => exact counts_tally _
  case nodeTotal => exact (counts_tally _).total.trans (List.length_map _)
  case relationshipTotal => exact (counts_tally _).total.trans (List.length_map _)
  case degrees => exact (counts_tally _).total.trans (hdegrees.trans hnodes.symm)
  case ends =>
    have hsum := sum_tally id ((degrees s.snapshot [] none).map NodeDegree.degree)
    rw [List.map_id, hs.sum_degrees, ← ofTypes_eq_followed] at hsum
    exact hsum
  case descending => exact keys_tally_of_descending (hs.degrees_descending [])
  case extremes =>
    intro hpos
    have hne := List.ne_nil_of_length_pos (hdegrees.symm ▸ hnodes ▸ hpos)
    exact ⟨head?_tally_of_descending (hs.degrees_descending []) hne,
      getLast?_tally_of_descending (hs.degrees_descending []) hne⟩
  case enough =>
    rw [hnodes, hrelationships, hcomponents]
    exact hs.length_le_components []
  case few =>
    rw [hnodes, hcomponents, ← hflatten]
    exact length_le_flatten fun c hc => component_ne_nil hc
  case largest =>
    rw [hnodes, hcomponents, ← hflatten]
    exact flatten_le_max _
  case connected =>
    rw [← hs.length_components_le_one_iff, ← hcomponents]
    exact decide_eq_true_iff

/-- Two nodes that are joined both ways, and one with a self-loop. -/
theorem fitsReport_of_reachable_sample :
    (sample ⟨true, true⟩).FitsReport (Report.ofSnapshot (sample ⟨true, true⟩).snapshot)
      ∧ ((Report.ofSnapshot (sample ⟨true, true⟩).snapshot).degreeCounts.entries.map
        fun e => e.1 * e.2).sum = 6 :=
  have h := fitsReport_of_reachable (Reachable.sample ⟨true, true⟩)
  ⟨h, h.ends.trans (by decide)⟩

end Store

end PropertyGraph
