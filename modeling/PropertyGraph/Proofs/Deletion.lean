import PropertyGraph.Proofs.Lineage
import PropertyGraph.Proofs.Neighbourhood

/-!
# Cascading deletions in any order

A deletion that cascades leaves the store without the node and without what touches it. Leaving out
some nodes and then others leaves out all of them, so what is left after several deletions depends
only on which nodes they were: `deleteNodes_eq`. A relationship between two of them goes with the
one that is deleted first; when the other is deleted, it is no longer there to be reported again.
-/

namespace PropertyGraph

/-- Whether a relationship has an end among some nodes. -/
def Relationship.touchesAny (r : Relationship) (ids : List String) : Bool := ids.any r.touches

namespace Store

variable {s : Store} {id : String} {ids : List String}

/-- A store without some nodes: left are the others, and the relationships at none of these. -/
def without (s : Store) (ids : List String) : Store :=
  { s with
    nodes := s.nodes.filter fun id _ => !ids.contains id
    relationships := s.relationships.filter fun _ r => !r.touchesAny ids }

/-- Deletes nodes one after the other, refused or not, and collects the answers. -/
def deleteNodes (s : Store) : List String → List (Except GraphError (List String)) × Store
  | [] => ([], s)
  | id :: ids =>
    let (answer, s) := s.deleteNode id
    let (answers, s) := s.deleteNodes ids
    (answer :: answers, s)

/-! ## Leaving out -/

theorem entries_nodes_without (s : Store) (ids : List String) :
    (s.without ids).nodes.entries = s.nodes.entries.filter fun e => !ids.contains e.1 := rfl

theorem entries_relationships_without (s : Store) (ids : List String) :
    (s.without ids).relationships.entries
      = s.relationships.entries.filter fun e => !e.2.touchesAny ids := rfl

/-- Stores are equal if they have the same entries, policy and last stamp. -/
theorem ext_entries {t : Store} (hp : s.policy = t.policy) (hl : s.lastStamp = t.lastStamp)
    (hn : s.nodes.entries = t.nodes.entries)
    (hr : s.relationships.entries = t.relationships.entries) : s = t := by
  obtain ⟨policy, nodes, relationships, last⟩ := s
  obtain rfl : policy = t.policy := hp
  obtain rfl : last = t.lastStamp := hl
  obtain rfl : nodes = t.nodes := OrderedMap.ext hn
  obtain rfl : relationships = t.relationships := OrderedMap.ext hr
  rfl

theorem without_nil (s : Store) : s.without [] = s := by
  refine ext_entries rfl rfl ?_ ?_
  · rw [entries_nodes_without]
    exact List.filter_eq_self.mpr fun _ _ => rfl
  · rw [entries_relationships_without]
    exact List.filter_eq_self.mpr fun _ _ => rfl

/-- Leaving out some nodes and then others leaves out all of them. -/
theorem without_without (s : Store) (ids ids' : List String) :
    (s.without ids).without ids' = s.without (ids ++ ids') := by
  refine ext_entries rfl rfl ?_ ?_
  · rw [entries_nodes_without, entries_nodes_without, entries_nodes_without, List.filter_filter]
    refine List.filter_congr fun e _ => ?_
    rw [List.contains_append, Bool.not_or, Bool.and_comm]
  · rw [entries_relationships_without, entries_relationships_without,
      entries_relationships_without, List.filter_filter]
    refine List.filter_congr fun e _ => ?_
    unfold Relationship.touchesAny
    rw [List.any_append, Bool.not_or, Bool.and_comm]

/-- The order in which the nodes are listed does not matter. -/
theorem without_perm (s : Store) {ids' : List String} (h : ids'.Perm ids) :
    s.without ids' = s.without ids := by
  refine ext_entries rfl rfl ?_ ?_
  · rw [entries_nodes_without, entries_nodes_without]
    exact List.filter_congr fun e _ => by rw [h.contains_eq]
  · rw [entries_relationships_without, entries_relationships_without]
    unfold Relationship.touchesAny
    exact List.filter_congr fun e _ => by rw [h.any_eq]

theorem hasNode_without : (s.without ids).hasNode id = true ↔ s.hasNode id = true ∧ id ∉ ids := by
  rw [hasNode_iff, hasNode_iff, OrderedMap.mem_keys, OrderedMap.mem_keys]
  simp only [entries_nodes_without, List.mem_filter, Bool.not_eq_true', List.contains_eq_mem,
    decide_eq_false_iff_not, exists_and_right]

/-! ## One deletion -/

/-- The keys of relationships are their ids. -/
theorem Sound.keys_filter (hs : s.Sound) (p : Relationship → Bool) :
    (s.relationships.entries.filter fun e => p e.2).map Prod.fst
      = (s.relationships.values.filter p).map Relationship.id := by
  rw [OrderedMap.values, List.filter_map, List.map_map]
  refine List.map_congr_left fun e he => ?_
  exact hs.relationships_keyed e (List.mem_of_mem_filter he)

/-- What touches a node is what a query for both directions lists. -/
theorem Sound.exists_touching (hs : s.Sound) (h : s.hasNode id = true) :
    ∃ touching, s.nodeRelationships id none .both = .ok touching
      ∧ touching.map Relationship.id = s.incidentIds id := by
  refine ⟨_, nodeRelationships_eq h none .both, ?_⟩
  unfold incidentIds
  rw [hs.keys_filter fun r => r.touches id]
  show ((s.relationships.values.filter fun _ => true).filter _).map _ = _
  rw [List.filter_true]
  rfl

/-- A node that is there is left out with all that touches it, unless cascading is off. -/
theorem deleteNode_eq (h : s.hasNode id = true) :
    s.deleteNode id
      = if !(s.incidentIds id).isEmpty && !s.policy.cascadeDeletes then
          (.error (.stillConnected id (s.incidentIds id)), s)
        else (.ok (s.incidentIds id), s.without [id]) := by
  obtain ⟨n, hn⟩ := exists_node h
  have hrest : ({ s.eraseRelationships (s.incidentIds id) with nodes := s.nodes.erase id } : Store)
      = s.without [id] := by
    refine ext_entries rfl rfl ?_ ?_
    · show s.nodes.entries.filter (fun e => e.1 ≠ id) = _
      rw [entries_nodes_without]
      exact List.filter_congr fun e _ => by simp
    · show ((s.incidentIds id).foldl OrderedMap.erase s.relationships).entries = _
      rw [OrderedMap.entries_foldl_erase, entries_relationships_without]
      refine List.filter_congr fun e he => ?_
      rw [decide_not, Bool.eq_iff_iff.mpr (decide_eq_true_iff.trans (mem_incidentIds he))]
      simp [Relationship.touchesAny]
  unfold deleteNode
  rw [hn]
  dsimp only
  rw [← hrest]
  rfl

theorem deleteNode_cascade (hc : s.policy.cascadeDeletes = true) (h : s.hasNode id = true) :
    s.deleteNode id = (.ok (s.incidentIds id), s.without [id]) := by
  rw [deleteNode_eq h, hc, Bool.not_true, Bool.and_false, if_neg Bool.false_ne_true]

/-! ## Several deletions -/

theorem deleteNodes_cons (s : Store) (id : String) (ids : List String) :
    s.deleteNodes (id :: ids)
      = ((s.deleteNode id).1 :: ((s.deleteNode id).2.deleteNodes ids).1,
          ((s.deleteNode id).2.deleteNodes ids).2) := rfl

theorem deleteNodes_append (s : Store) (ids ids' : List String) :
    s.deleteNodes (ids ++ ids')
      = ((s.deleteNodes ids).1 ++ ((s.deleteNodes ids).2.deleteNodes ids').1,
          ((s.deleteNodes ids).2.deleteNodes ids').2) := by
  induction ids generalizing s with
  | nil => rfl
  | cons id ids ih =>
    rw [List.cons_append, deleteNodes_cons, deleteNodes_cons, ih]
    rfl

theorem length_deleteNodes (s : Store) (ids : List String) :
    (s.deleteNodes ids).1.length = ids.length := by
  induction ids generalizing s with
  | nil => rfl
  | cons id ids ih =>
    rw [deleteNodes_cons, List.length_cons, List.length_cons, ih]

theorem Sound.deleteNodes (hs : s.Sound) (ids : List String) : (s.deleteNodes ids).2.Sound := by
  induction ids generalizing s with
  | nil => exact hs
  | cons id ids ih => exact ih (hs.deleteNode id)

/-- What goes with each of some nodes, where those before it are left out. -/
def reports (s : Store) : List String → List (List String)
  | [] => []
  | id :: ids => s.incidentIds id :: (s.without [id]).reports ids

/-- **Cascading deletions of nodes that are there succeed**, and leave these nodes out. -/
theorem deleteNodes_eq (hc : s.policy.cascadeDeletes = true) (hnd : ids.Nodup)
    (hlive : ∀ id ∈ ids, s.hasNode id = true) :
    s.deleteNodes ids = ((s.reports ids).map .ok, s.without ids) := by
  induction ids generalizing s with
  | nil =>
    rw [without_nil]
    rfl
  | cons id ids ih =>
    obtain ⟨hid, hnd⟩ := List.nodup_cons.mp hnd
    -- the nodes that are still to go are there after the first deletion
    have hlater : ∀ id' ∈ ids, (s.without [id]).hasNode id' = true := by
      intro id' hid'
      have hne : id' ∉ [id] := by
        rintro hmem
        rw [List.mem_singleton.mp hmem] at hid'
        exact hid hid'
      exact hasNode_without.mpr ⟨hlive id' (List.mem_cons_of_mem _ hid'), hne⟩
    have hrest := ih (s := s.without [id]) hc hnd hlater
    rw [deleteNodes_cons, deleteNode_cascade hc (hlive id List.mem_cons_self), hrest,
      without_without]
    rfl

/-- Each relationship with an end among the nodes is reported with the first of them to go. -/
theorem reports_perm (s : Store) (ids : List String) :
    (s.reports ids).flatten.Perm
      ((s.relationships.entries.filter fun e => e.2.touchesAny ids).map Prod.fst) := by
  induction ids generalizing s with
  | nil =>
    have hnone : s.relationships.entries.filter (fun e => e.2.touchesAny []) = [] :=
      List.filter_eq_nil_iff.mpr fun _ _ => Bool.false_ne_true
    rw [hnone]
    exact List.Perm.nil
  | cons id ids ih =>
    have hcons : ∀ r : Relationship,
        r.touchesAny (id :: ids) = (r.touches id || r.touchesAny ids) := fun _ => List.any_cons
    have hfirst : (s.relationships.entries.filter fun e => e.2.touchesAny (id :: ids)).filter
        (fun e => e.2.touches id) = s.relationships.entries.filter fun e => e.2.touches id := by
      rw [List.filter_filter]
      refine List.filter_congr fun e _ => ?_
      rw [hcons]
      cases e.2.touches id <;> simp
    have hlater : (s.relationships.entries.filter fun e => e.2.touchesAny (id :: ids)).filter
        (fun e => !e.2.touches id)
          = (s.without [id]).relationships.entries.filter fun e => e.2.touchesAny ids := by
      rw [entries_relationships_without, List.filter_filter, List.filter_filter]
      refine List.filter_congr fun e _ => ?_
      have hsingle : e.2.touchesAny [id] = e.2.touches id := by simp [Relationship.touchesAny]
      rw [hcons, hsingle]
      cases e.2.touches id <;> simp
    have hsplit := (List.filter_append_perm (fun e => e.2.touches id)
      (s.relationships.entries.filter fun e => e.2.touchesAny (id :: ids))).map Prod.fst
    rw [hfirst, hlater, List.map_append] at hsplit
    exact ((ih (s.without [id])).append_left (s.incidentIds id)).trans hsplit

/-! ## In any order -/

/-- What deleting some nodes in some order is to come to, where deletions cascade. -/
structure Cascades (s : Store) (ids order : List String) (reports : List (List String)) : Prop where
  /-- Every deletion succeeds. -/
  succeeds : (s.deleteNodes order).1 = reports.map .ok
  /-- Left are the other nodes and the relationships at none of the deleted ones, as they were. -/
  leaves : (s.deleteNodes order).2 = s.without ids
  /-- The relationships that have gone are reported, -/
  reported : reports.flatten.Perm
    ((s.relationships.values.filter fun r => r.touchesAny ids).map Relationship.id)
  /-- each once. -/
  once : reports.flatten.Nodup
  /-- Each deletion answers the ids of what is listed at the node just before, in that order. -/
  each : ∀ before id after, order = before ++ id :: after → ∃ touching,
    (s.deleteNodes before).2.nodeRelationships id none .both = .ok touching
      ∧ (s.deleteNodes order).1[before.length]? = some (.ok (touching.map Relationship.id))

/-- What deleting a node is to come to, where deletions do not cascade. -/
structure Guards (s : Store) (id : String) (touching : List Relationship) : Prop where
  /-- These relationships are listed at the node. -/
  listed : s.nodeRelationships id none .both = .ok touching
  /-- The deletion succeeds if there are none, -/
  succeeds_iff : (∃ gone, (s.deleteNode id).1 = .ok gone) ↔ touching = []
  /-- and else it is refused with their ids. -/
  refused : touching ≠ [] → ∃ e, s.deleteNode id = (.error e, s) ∧ e.report.kind = .constraint
    ∧ e.report.details = [("id", .text id),
      ("relationship_ids", .list (touching.map fun r => .text r.id))]

/-- A deletion that cascades answers the ids of what is listed at the node just before it. -/
theorem Sound.exists_answer (hs : s.Sound) (hc : s.policy.cascadeDeletes = true)
    {before after : List String} (hnd : (before ++ id :: after).Nodup)
    (hlive : ∀ id' ∈ before ++ id :: after, s.hasNode id' = true) :
    ∃ touching, (s.deleteNodes before).2.nodeRelationships id none .both = .ok touching
      ∧ (s.deleteNodes (before ++ id :: after)).1[before.length]?
          = some (.ok (touching.map Relationship.id)) := by
  obtain ⟨hbefore, -, hapart⟩ := List.nodup_append.mp hnd
  have hleft := deleteNodes_eq hc hbefore fun id' hid' =>
    hlive id' (List.mem_append_left _ hid')
  -- just before its turn the node is there, with what still touches it
  have hthere : (s.deleteNodes before).2.hasNode id = true := by
    rw [hleft]
    refine hasNode_without.mpr ⟨hlive id (by simp), fun hmem => ?_⟩
    exact hapart id hmem id List.mem_cons_self rfl
  have hkept : (s.deleteNodes before).2.policy.cascadeDeletes = true := by
    rw [hleft]
    exact hc
  obtain ⟨touching, hlisted, hids⟩ := (hs.deleteNodes before).exists_touching hthere
  refine ⟨touching, hlisted, ?_⟩
  rw [deleteNodes_append, List.getElem?_append_right (length_deleteNodes s before).le,
    length_deleteNodes, Nat.sub_self, deleteNodes_cons, List.getElem?_cons_zero,
    deleteNode_cascade hkept hthere, hids]

theorem Sound.exists_cascades (hs : s.Sound) (hc : s.policy.cascadeDeletes = true)
    (hnd : ids.Nodup) (hlive : ∀ id ∈ ids, s.hasNode id = true) {order : List String}
    (hperm : order.Perm ids) : ∃ reports, s.Cascades ids order reports := by
  have hlive' : ∀ id ∈ order, s.hasNode id = true := fun id hid => hlive id (hperm.subset hid)
  have hnd' : order.Nodup := hperm.nodup_iff.mpr hnd
  have hall := deleteNodes_eq hc hnd' hlive'
  have hreported : (s.reports order).flatten.Perm
      ((s.relationships.values.filter fun r => r.touchesAny ids).map Relationship.id) := by
    have hany : ∀ r : Relationship, r.touchesAny order = r.touchesAny ids :=
      fun r => hperm.any_eq
    have hgone := s.reports_perm order
    rw [hs.keys_filter fun r => r.touchesAny order] at hgone
    simpa only [hany] using hgone
  refine ⟨s.reports order, ?succeeds, ?leaves, hreported, ?once, ?each⟩
  case succeeds => rw [hall]
  case leaves =>
    rw [hall]
    exact s.without_perm hperm
  case once =>
    refine hreported.nodup_iff.mpr ((List.filter_sublist.map Relationship.id).nodup ?_)
    rw [hs.relationshipIds_eq]
    exact s.relationships.nodup_keys
  case each =>
    rintro before id after rfl
    exact hs.exists_answer hc hnd' hlive'

theorem Sound.exists_guards (hs : s.Sound) (hc : s.policy.cascadeDeletes = false)
    (hid : s.hasNode id = true) : ∃ touching, s.Guards id touching := by
  obtain ⟨touching, hlisted, hids⟩ := hs.exists_touching hid
  have hdelete := deleteNode_eq hid
  rw [hc, ← hids, Bool.not_false, Bool.and_true, List.isEmpty_map] at hdelete
  refine ⟨touching, hlisted, ?succeeds_iff, ?refused⟩
  case succeeds_iff =>
    rw [hdelete]
    cases touching with
    | nil => simp
    | cons r rs => simp
  case refused =>
    intro hne
    refine ⟨.stillConnected id (touching.map Relationship.id), ?_, rfl, ?_⟩
    · have hsome : (!touching.isEmpty) = true := by simpa using hne
      rw [hdelete, if_pos hsome]
    · show [("id", Document.text id), ("relationship_ids",
        Document.list ((touching.map Relationship.id).map .text))] = _
      rw [List.map_map]
      rfl

/--
**Cascading deletions do not depend on their order.** In whatever order distinct nodes of a
reachable store are deleted, every deletion succeeds, the same is left, and each relationship that
goes is reported once, by the deletion just before which it was listed at the node. Where deletions
do not cascade, a node goes only if nothing is listed there.
-/
theorem deletions_cascade_or_guard (h : Reachable s) :
    (s.policy.cascadeDeletes = true → ∀ ids : List String, ids.Nodup →
      (∀ id ∈ ids, s.hasNode id = true) → ∀ order, order.Perm ids →
        ∃ reports, s.Cascades ids order reports)
    ∧ (s.policy.cascadeDeletes = false → ∀ id, s.hasNode id = true →
      ∃ touching, s.Guards id touching) := by
  have hs := sound_of_reachable h
  constructor
  · intro hc ids hnd hlive order hperm
    exact hs.exists_cascades hc hnd hlive hperm
  · intro hc id hid
    exact hs.exists_guards hc hid

/-- Two nodes that are joined both ways, the second of them first; and one that has to stay. -/
theorem deletions_cascade_or_guard_sample :
    (∃ reports, (sample ⟨true, true⟩).Cascades ["a", "b"] ["b", "a"] reports)
      ∧ ∃ touching, (sample ⟨false, true⟩).Guards "a" touching :=
  ⟨(deletions_cascade_or_guard (Reachable.sample ⟨true, true⟩)).1 (by decide) ["a", "b"]
      (by decide) (by decide) ["b", "a"] (by decide),
    (deletions_cascade_or_guard (Reachable.sample ⟨false, true⟩)).2 (by decide) "a" (by decide)⟩

end Store

end PropertyGraph
