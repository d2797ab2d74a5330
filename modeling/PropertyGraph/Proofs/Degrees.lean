import Mathlib.Algebra.BigOperators.Group.Finset.Basic
import Mathlib.Algebra.GroupWithZero.Nat
import Mathlib.Algebra.Order.Group.Nat
import PropertyGraph.Analytics.Degree
import PropertyGraph.Proofs.Components
import PropertyGraph.Proofs.Ranking

/-!
# Degrees count the ends of relationships

A relationship has two ends. Counted over all nodes, the sources are as many as the relationships,
and so are the targets, provided that no end is missing among the nodes: `sum_degreeOf`. In a
reachable store none is, so the degrees add up to twice the number of relationships that are
followed. What is left of the ranking is that it is a stable sort, of which `top` keeps the start.
-/

namespace PropertyGraph

namespace Analytics

variable {rs : List Relationship} {ids : List String}

/-- The counts of all items add up to their number, if each is counted under one id. -/
theorem sum_count_eq_length (hnodup : ids.Nodup) {xs : List String} (hxs : ∀ x ∈ xs, x ∈ ids) :
    (ids.map fun id => xs.count id).sum = xs.length := by
  have hmem : ∀ x ∈ (xs : Multiset String), x ∈ ids.toFinset :=
    fun x hx => List.mem_toFinset.mpr (hxs x hx)
  have hcount := Multiset.sum_count_eq_card hmem
  rw [List.sum_toFinset _ hnodup] at hcount
  simpa using hcount

theorem degreeOf_eq (rs : List Relationship) (id : String) :
    degreeOf rs id
      = (rs.map Relationship.source).count id + (rs.map Relationship.target).count id := by
  unfold degreeOf
  rw [List.count_eq_countP, List.count_eq_countP, List.countP_map, List.countP_map]
  rfl

/-- **Every relationship is counted at two ends**, if its ends are among the nodes. -/
theorem sum_degreeOf (hnodup : ids.Nodup) (hsource : ∀ r ∈ rs, r.source ∈ ids)
    (htarget : ∀ r ∈ rs, r.target ∈ ids) : (ids.map (degreeOf rs)).sum = 2 * rs.length := by
  have hsources := sum_count_eq_length hnodup (List.forall_mem_map.mpr hsource)
  have htargets := sum_count_eq_length hnodup (List.forall_mem_map.mpr htarget)
  rw [List.length_map] at hsources htargets
  calc (ids.map (degreeOf rs)).sum
      = (ids.map fun id => (rs.map Relationship.source).count id
          + (rs.map Relationship.target).count id).sum := by
        rw [List.map_congr_left fun id _ => degreeOf_eq rs id]
    _ = rs.length + rs.length := by rw [List.sum_map_add, hsources, htargets]
    _ = 2 * rs.length := (Nat.two_mul _).symm

/-- Ids that are distinct come in the order of their places. -/
theorem pairwise_idxOf (hnodup : ids.Nodup) :
    ids.Pairwise fun a b => ids.idxOf a < ids.idxOf b := by
  rw [List.pairwise_iff_getElem]
  intro i j hi hj hij
  rwa [hnodup.idxOf_getElem, hnodup.idxOf_getElem]

variable (g : Snapshot) (types : List String)

/-- A ranking by degree lists each node with its degree. -/
theorem degrees_perm : (degrees g types none).Perm
    (g.nodeIds.map fun id => ⟨id, degreeOf (ofTypes types g.relationships) id⟩) := rank_perm _ _

/-- So each node is listed once, whatever the relationships are. -/
theorem map_node_degrees : ((degrees g types none).map NodeDegree.node).Perm g.nodeIds := by
  have hnode := (degrees_perm g types).map NodeDegree.node
  rwa [List.map_map, Function.comp_def, List.map_id'] at hnode

/-- With a number of entries asked for, the ranking is cut off after these. -/
theorem degrees_some {k : Int} (hk : 1 ≤ k) :
    degrees g types (some k) = (degrees g types none).take k.toNat := by
  have hne : k ≠ 0 := by omega
  have hpos : 0 < k := by omega
  unfold degrees takeTop
  simp only [if_neg hne, if_pos hpos]

end Analytics

namespace Store

open Analytics

variable {s : Store} {types : List String}

/-- The relationships that pass a filter, in the order in which they were added. -/
def followed (s : Store) (types : List String) : List Relationship :=
  s.relationships.values.filter fun r => Passes types r

theorem ofTypes_eq_followed (s : Store) (types : List String) :
    ofTypes types s.snapshot.relationships = s.followed types := by
  unfold ofTypes followed Passes
  cases types with
  | nil => simp [snapshot]
  | cons t ts => simp [snapshot]

theorem Sound.ends_of_followed (hs : s.Sound) {r : Relationship} (hr : r ∈ s.followed types) :
    r.source ∈ s.nodes.keys ∧ r.target ∈ s.nodes.keys := by
  obtain ⟨k, hk⟩ := OrderedMap.mem_values.mp (List.mem_filter.mp hr).1
  exact ⟨hs.source_live (k, r) hk, hs.target_live (k, r) hk⟩

/-- The ranking of a sound store lists its nodes, each with its degree. -/
theorem Sound.degrees_perm (hs : s.Sound) (types : List String) :
    (degrees s.snapshot types none).Perm
      (s.nodes.keys.map fun id => ⟨id, degreeOf (s.followed types) id⟩) := by
  have hids : s.snapshot.nodeIds = s.nodes.keys := hs.nodeIds_eq
  have hperm := Analytics.degrees_perm s.snapshot types
  rwa [ofTypes_eq_followed, hids] at hperm

theorem Sound.map_node_degrees (hs : s.Sound) (types : List String) :
    ((degrees s.snapshot types none).map NodeDegree.node).Perm s.nodes.keys := by
  have hids : s.snapshot.nodeIds = s.nodes.keys := hs.nodeIds_eq
  rw [← hids]
  exact Analytics.map_node_degrees s.snapshot types

theorem Sound.length_degrees (hs : s.Sound) (types : List String) :
    (degrees s.snapshot types none).length = s.nodes.size := by
  rw [(hs.degrees_perm types).length_eq, List.length_map, s.nodes.length_keys]

/-- The higher degree goes first, and of two nodes with equal degrees the earlier one. -/
theorem Sound.degrees_pairwise (hs : s.Sound) (types : List String) :
    (degrees s.snapshot types none).Pairwise fun a b => b.degree < a.degree
      ∨ a.degree = b.degree ∧ s.nodes.keys.idxOf a.node < s.nodes.keys.idxOf b.node := by
  have hids : s.snapshot.nodeIds = s.nodes.keys := hs.nodeIds_eq
  refine rank_pairwise NodeDegree.degree (fun d => s.nodes.keys.idxOf d.node) ?_
  rw [hids, List.pairwise_map]
  exact pairwise_idxOf s.nodes.nodup_keys

theorem Sound.sum_degrees (hs : s.Sound) (types : List String) :
    ((degrees s.snapshot types none).map NodeDegree.degree).sum
      = 2 * (s.followed types).length := by
  rw [((hs.degrees_perm types).map NodeDegree.degree).sum_eq, List.map_map]
  exact sum_degreeOf s.nodes.nodup_keys (fun r hr => (hs.ends_of_followed hr).1)
    fun r hr => (hs.ends_of_followed hr).2

/-- What the ranking of the nodes by degree is to be. -/
structure RanksDegrees (s : Store) (types : List String) : Prop where
  /-- Every node is listed once, and nothing else is. -/
  listed : ((degrees s.snapshot types none).map NodeDegree.node).Perm s.nodes.keys
  /-- A degree counts the relationships from a node and those to it, a self-loop twice. -/
  counted : ∀ d ∈ degrees s.snapshot types none,
    d.degree = ((s.followed types).filter fun r => r.source = d.node).length
      + ((s.followed types).filter fun r => r.target = d.node).length
  /-- The higher degree goes first, and of two nodes with equal degrees the earlier one. -/
  ranked : (degrees s.snapshot types none).Pairwise fun a b => b.degree < a.degree
    ∨ a.degree = b.degree ∧ s.nodes.keys.idxOf a.node < s.nodes.keys.idxOf b.node
  /-- Each relationship adds two to the degrees. -/
  total : ((degrees s.snapshot types none).map NodeDegree.degree).sum
    = 2 * (s.followed types).length
  /-- If a number of nodes is asked for, they are the first ones, or all if there are fewer. -/
  first : ∀ k : Int, 1 ≤ k → degrees s.snapshot types (some k)
    = (degrees s.snapshot types none).take (min k.toNat s.nodes.size)

/--
**Nodes are ranked by the number of ends that lie at them.** In every store that can be reached the
ranking lists each node once, from the highest degree to the lowest, equal ones in the order in
which the nodes were added, and the degrees add up to twice the number of relationships.
-/
theorem ranksDegrees_of_reachable (h : Reachable s) (types : List String) :
    s.RanksDegrees types := by
  have hs := sound_of_reachable h
  constructor
  case listed => exact hs.map_node_degrees types
  case counted =>
    intro d hd
    obtain ⟨id, -, rfl⟩ := List.mem_map.mp ((hs.degrees_perm types).mem_iff.mp hd)
    show degreeOf (s.followed types) id = _
    unfold degreeOf
    rw [List.countP_eq_length_filter, List.countP_eq_length_filter]
    rfl
  case ranked => exact hs.degrees_pairwise types
  case total => exact hs.sum_degrees types
  case first =>
    intro k hk
    rw [degrees_some _ _ hk, List.take_eq_take_iff, hs.length_degrees]
    omega

/-- Of the two relationships that are followed, one is a self-loop. -/
theorem ranksDegrees_of_reachable_sample :
    (sample ⟨true, true⟩).RanksDegrees ["T"]
      ∧ ((degrees (sample ⟨true, true⟩).snapshot ["T"] none).map NodeDegree.degree).sum = 4 :=
  have h := ranksDegrees_of_reachable (Reachable.sample ⟨true, true⟩) ["T"]
  ⟨h, h.total.trans (by decide)⟩

end Store

end PropertyGraph
