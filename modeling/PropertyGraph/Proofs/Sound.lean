import PropertyGraph.Proofs.Batch
import PropertyGraph.Proofs.Operations
import PropertyGraph.Proofs.Reachable

/-!
# Soundness of stores

`Store.Sound` is what a store keeps true of its two maps: elements stand under their own ids, they
are well formed, relationships have both their ends among the nodes, and self-loops are there only
if the policy allows them.

The clause on ends is the one that links the maps. Everything that adds relationships asks for their
ends, in the store or in the snapshot that they come with; and the one operation that removes a node
removes the relationships that touch it as well. What is left is that clearing removes both maps at
once.
-/

namespace PropertyGraph

namespace Store

variable {s : Store}

/-- The invariant of a store. -/
structure Sound (s : Store) : Prop where
  /-- Nodes stand under their ids. -/
  nodes_keyed : ∀ e ∈ s.nodes.entries, e.1 = e.2.id
  /-- Relationships stand under their ids. -/
  relationships_keyed : ∀ e ∈ s.relationships.entries, e.1 = e.2.id
  /-- Nodes are well formed. -/
  nodes_valid : ∀ e ∈ s.nodes.entries, e.2.Valid
  /-- Relationships are well formed. -/
  relationships_valid : ∀ e ∈ s.relationships.entries, e.2.Valid
  /-- Sources are nodes of the store. -/
  source_live : ∀ e ∈ s.relationships.entries, e.2.source ∈ s.nodes.keys
  /-- Targets are nodes of the store. -/
  target_live : ∀ e ∈ s.relationships.entries, e.2.target ∈ s.nodes.keys
  /-- Where self-loops are not allowed there are none. -/
  no_loops : s.policy.allowSelfLoops = false →
    ∀ e ∈ s.relationships.entries, e.2.source ≠ e.2.target

namespace Sound

theorem congr {t : Store} (h : s.Sound) (hp : t.policy = s.policy) (hn : t.nodes = s.nodes)
    (hr : t.relationships = s.relationships) : t.Sound := by
  obtain ⟨policy, nodes, relationships, last⟩ := t
  subst hp hn hr
  exact ⟨h.nodes_keyed, h.relationships_keyed, h.nodes_valid, h.relationships_valid,
    h.source_live, h.target_live, h.no_loops⟩

theorem stamped (h : s.Sound) (supply : Supply) : (s.stamped supply).Sound := h.congr rfl rfl rfl

theorem empty (policy : Policy) : (Store.empty policy).Sound := by
  constructor <;> simp [Store.empty]

theorem clear (s : Store) : s.clear.Sound := (empty s.policy).congr rfl rfl rfl

/-- A well-formed node under its id, a new one or one that replaces another, does no harm. -/
theorem putNode (h : s.Sound) {n : Node} (hn : n.Valid) : (s.putNode n).Sound where
  nodes_keyed := by
    intro e he
    rcases OrderedMap.mem_entries_insert.mp he with rfl | ⟨he, _⟩
    · rfl
    · exact h.nodes_keyed e he
  relationships_keyed := h.relationships_keyed
  nodes_valid := by
    intro e he
    rcases OrderedMap.mem_entries_insert.mp he with rfl | ⟨he, _⟩
    · exact hn
    · exact h.nodes_valid e he
  relationships_valid := h.relationships_valid
  source_live := by
    intro e he
    exact OrderedMap.mem_keys_insert.mpr (Or.inr (h.source_live e he))
  target_live := by
    intro e he
    exact OrderedMap.mem_keys_insert.mpr (Or.inr (h.target_live e he))
  no_loops := h.no_loops

/-- A well-formed relationship under its id may join nodes that are there. -/
theorem putRelationship (h : s.Sound) {r : Relationship} (hr : r.Valid)
    (hs : r.source ∈ s.nodes.keys) (ht : r.target ∈ s.nodes.keys)
    (hl : r.source = r.target → s.policy.allowSelfLoops = true) : (s.putRelationship r).Sound where
  nodes_keyed := h.nodes_keyed
  relationships_keyed := by
    intro e he
    rcases OrderedMap.mem_entries_insert.mp he with rfl | ⟨he, _⟩
    · rfl
    · exact h.relationships_keyed e he
  nodes_valid := h.nodes_valid
  relationships_valid := by
    intro e he
    rcases OrderedMap.mem_entries_insert.mp he with rfl | ⟨he, _⟩
    · exact hr
    · exact h.relationships_valid e he
  source_live := by
    intro e he
    rcases OrderedMap.mem_entries_insert.mp he with rfl | ⟨he, _⟩
    · exact hs
    · exact h.source_live e he
  target_live := by
    intro e he
    rcases OrderedMap.mem_entries_insert.mp he with rfl | ⟨he, _⟩
    · exact ht
    · exact h.target_live e he
  no_loops := by
    intro hno e he
    have hno' : s.policy.allowSelfLoops = false := hno
    rcases OrderedMap.mem_entries_insert.mp he with rfl | ⟨he, _⟩
    · intro heq
      rw [hl heq] at hno'
      exact Bool.noConfusion hno'
    · exact h.no_loops hno e he

/-- Fewer relationships do no harm, and neither do fewer nodes if none of them was an end. -/
theorem shrink {t : Store} (h : s.Sound) (hp : t.policy = s.policy)
    (hn : ∀ e ∈ t.nodes.entries, e ∈ s.nodes.entries)
    (hr : ∀ e ∈ t.relationships.entries, e ∈ s.relationships.entries
      ∧ (e.2.source ∈ s.nodes.keys → e.2.source ∈ t.nodes.keys)
      ∧ (e.2.target ∈ s.nodes.keys → e.2.target ∈ t.nodes.keys)) : t.Sound where
  nodes_keyed := fun e he => h.nodes_keyed e (hn e he)
  relationships_keyed := fun e he => h.relationships_keyed e (hr e he).1
  nodes_valid := fun e he => h.nodes_valid e (hn e he)
  relationships_valid := fun e he => h.relationships_valid e (hr e he).1
  source_live := fun e he => (hr e he).2.1 (h.source_live e (hr e he).1)
  target_live := fun e he => (hr e he).2.2 (h.target_live e (hr e he).1)
  no_loops := by
    intro hno e he
    exact h.no_loops (hp ▸ hno) e (hr e he).1

/-! ## What the operations do -/

theorem createNode (h : s.Sound) (draft : NodeDraft) (supply : Supply) :
    (s.createNode draft supply).2.1.Sound := by
  rcases createNode_cases s draft supply with
    ⟨e, tokens, heq⟩ | ⟨vs, tokens, heq⟩ | ⟨type, tokens, n, _, _, hn, heq⟩
  · rw [heq]
    exact h
  · rw [heq]
    exact h.stamped _
  · rw [heq]
    exact (h.stamped _).putNode (Node.valid_of_check hn)

theorem updateNode (h : s.Sound) (id : String) (change : NodeChange) (supply : Supply) :
    (s.updateNode id change supply).2.1.Sound := by
  rcases updateNode_cases s id change supply with
    ⟨e, heq⟩ | ⟨vs, heq⟩ | ⟨n, n', hmem, hn, heq⟩
  · rw [heq]
    exact h
  · rw [heq]
    exact h.stamped _
  · rw [heq]
    -- the new node has the id of the old one, which is its key
    have hkey : id = n'.id := (h.nodes_keyed (id, n) hmem).trans (Node.check_eq_accepted.mp hn).1.2
    rw [hkey]
    exact (h.stamped _).putNode (Node.valid_of_check hn)

theorem deleteNode (h : s.Sound) (id : String) : (s.deleteNode id).2.Sound := by
  rcases deleteNode_cases s id with ⟨e, heq⟩ | ⟨_, heq⟩
  · rw [heq]
    exact h
  · rw [heq]
    refine h.shrink rfl ?_ ?_
    · intro e he
      exact (OrderedMap.mem_entries_erase.mp he).1
    · intro e he
      obtain ⟨hmem, hnot⟩ := OrderedMap.mem_entries_foldl_erase.mp he
      -- what is left does not touch the node, or it would be among the incident ones
      have htouch : e.2.touches id = false := by
        cases ht : e.2.touches id with
        | false => rfl
        | true => exact absurd (List.mem_map.mpr ⟨e, List.mem_filter.mpr ⟨hmem, ht⟩, rfl⟩) hnot
      have hends : e.2.source ≠ id ∧ e.2.target ≠ id := by
        unfold Relationship.touches at htouch
        simpa using htouch
      exact ⟨hmem, fun hs => OrderedMap.mem_keys_erase.mpr ⟨hs, hends.1⟩,
        fun ht => OrderedMap.mem_keys_erase.mpr ⟨ht, hends.2⟩⟩

theorem createRelationship (h : s.Sound) (draft : RelationshipDraft) (supply : Supply) :
    (s.createRelationship draft supply).2.1.Sound := by
  rcases createRelationship_cases s draft supply with
    ⟨e, tokens, heq⟩ | ⟨vs, tokens, heq⟩ | ⟨type, tokens, r, hadm, _, hr, heq⟩
  · rw [heq]
    exact h
  · rw [heq]
    exact h.stamped _
  · rw [heq]
    obtain ⟨hs, ht, hl, _⟩ := admitEnds_eq_ok_iff.mp hadm
    obtain ⟨_, _, ⟨_, hsource⟩, ⟨_, htarget⟩, _⟩ := Relationship.check_eq_accepted.mp hr
    -- the ends were there before the stamp was taken, and a stamp removes nothing
    refine (h.stamped _).putRelationship (Relationship.valid_of_check hr) ?_ ?_ ?_
    · rw [← hsource]
      exact hasNode_iff.mp hs
    · rw [← htarget]
      exact hasNode_iff.mp ht
    · rw [← hsource, ← htarget]
      exact hl

theorem updateRelationship (h : s.Sound) (id : String) (change : RelationshipChange)
    (supply : Supply) : (s.updateRelationship id change supply).2.1.Sound := by
  rcases updateRelationship_cases s id change supply with
    ⟨e, heq⟩ | ⟨vs, heq⟩ | ⟨r, r', hmem, hr, heq⟩
  · rw [heq]
    exact h
  · rw [heq]
    exact h.stamped _
  · rw [heq]
    obtain ⟨⟨_, hid⟩, _, ⟨_, hsource⟩, ⟨_, htarget⟩, _⟩ := Relationship.check_eq_accepted.mp hr
    have hkey : id = r'.id := (h.relationships_keyed (id, r) hmem).trans hid
    rw [hkey]
    -- the ends are those of the old relationship
    refine (h.stamped _).putRelationship (Relationship.valid_of_check hr) ?_ ?_ ?_
    · rw [← hsource]
      exact h.source_live (id, r) hmem
    · rw [← htarget]
      exact h.target_live (id, r) hmem
    · rw [← hsource, ← htarget]
      intro heq'
      cases hl : s.policy.allowSelfLoops with
      | true => exact hl
      | false => exact absurd heq' (h.no_loops hl (id, r) hmem)

theorem deleteRelationship (h : s.Sound) (id : String) : (s.deleteRelationship id).2.Sound := by
  rcases deleteRelationship_cases s id with ⟨e, heq⟩ | heq
  · rw [heq]
    exact h
  · rw [heq]
    refine h.shrink rfl (fun e he => he) ?_
    intro e he
    exact ⟨(OrderedMap.mem_entries_erase.mp he).1, fun hs => hs, fun ht => ht⟩

/-- A snapshot of well-formed elements that can be added may be added. -/
theorem takeSnapshot (h : s.Sound) {g : Snapshot} (hg : g.Valid) (hadm : s.Admits g) :
    (s.takeSnapshot g).Sound := by
  have hnodes := entries_nodes_takeSnapshot hadm
  have hrels := entries_relationships_takeSnapshot hadm
  -- every node that was there or came along is there now
  have hlive : ∀ id, id ∈ s.nodes.keys ∨ id ∈ g.nodes.map Node.id →
      id ∈ (s.takeSnapshot g).nodes.keys := by
    intro id hid
    unfold OrderedMap.keys
    rw [hnodes, List.map_append, List.mem_append, List.map_map]
    exact hid
  have hnode : ∀ e ∈ (s.takeSnapshot g).nodes.entries,
      e ∈ s.nodes.entries ∨ ∃ n ∈ g.nodes, (n.id, n) = e := by
    intro e he
    rw [hnodes, List.mem_append, List.mem_map] at he
    exact he
  have hrel : ∀ e ∈ (s.takeSnapshot g).relationships.entries,
      e ∈ s.relationships.entries ∨ ∃ r ∈ g.relationships, (r.id, r) = e := by
    intro e he
    rw [hrels, List.mem_append, List.mem_map] at he
    exact he
  constructor
  case nodes_keyed =>
    intro e he
    rcases hnode e he with he | ⟨n, _, rfl⟩
    · exact h.nodes_keyed e he
    · rfl
  case relationships_keyed =>
    intro e he
    rcases hrel e he with he | ⟨r, _, rfl⟩
    · exact h.relationships_keyed e he
    · rfl
  case nodes_valid =>
    intro e he
    rcases hnode e he with he | ⟨n, hn, rfl⟩
    · exact h.nodes_valid e he
    · exact hg.nodes n hn
  case relationships_valid =>
    intro e he
    rcases hrel e he with he | ⟨r, hr, rfl⟩
    · exact h.relationships_valid e he
    · exact hg.relationships r hr
  case source_live =>
    intro e he
    rcases hrel e he with he | ⟨r, hr, rfl⟩
    · exact hlive _ (Or.inl (h.source_live e he))
    · exact hlive _ (hadm.source r hr)
  case target_live =>
    intro e he
    rcases hrel e he with he | ⟨r, hr, rfl⟩
    · exact hlive _ (Or.inl (h.target_live e he))
    · exact hlive _ (hadm.target r hr)
  case no_loops =>
    intro hno e he
    rw [takeSnapshot_policy] at hno
    rcases hrel e he with he | ⟨r, hr, rfl⟩
    · exact h.no_loops hno e he
    · intro heq
      rw [hadm.loops r hr heq] at hno
      exact Bool.noConfusion hno

theorem importSnapshot (h : s.Sound) {g : Snapshot} (hg : g.Valid) :
    (s.importSnapshot g).2.Sound := by
  rcases importSnapshot_cases s g with ⟨e, _, heq⟩ | ⟨hadm, heq⟩
  · rw [heq]
    exact h
  · rw [heq]
    exact h.takeSnapshot hg hadm

theorem replaceWith (h : s.Sound) {g : Snapshot} (hg : g.Valid) : (s.replaceWith g).2.Sound := by
  rcases replaceWith_cases s g with ⟨e, _, heq⟩ | ⟨hadm, heq⟩
  · rw [heq]
    exact h
  · rw [heq]
    exact (Sound.clear s).takeSnapshot hg hadm

end Sound

theorem Sound.snapshot_valid (h : s.Sound) : s.snapshot.Valid where
  nodes := by
    intro n hn
    obtain ⟨k, hk⟩ := OrderedMap.mem_values.mp hn
    exact h.nodes_valid (k, n) hk
  relationships := by
    intro r hr
    obtain ⟨k, hk⟩ := OrderedMap.mem_values.mp hr
    exact h.relationships_valid (k, r) hk

end Store

/-- What is loaded from an archive has been read from a document. -/
theorem Archive.exists_of_load {a : Archive} {blob : String} {g : Snapshot}
    (h : a.load blob = .ok g) : ∃ d, Snapshot.ofDocument d = .ok g := by
  unfold Archive.load at h
  split at h
  · exact absurd h (by simp)
  · have hdecode := mapError_eq_ok_iff.mp h
    unfold Archive.decode at hdecode
    obtain ⟨text, _, hdecode⟩ := bind_eq_ok_iff.mp hdecode
    obtain ⟨document, _, hdecode⟩ := bind_eq_ok_iff.mp hdecode
    exact ⟨document, mapError_eq_ok_iff.mp hdecode⟩

theorem Archive.valid_of_load {a : Archive} {blob : String} {g : Snapshot}
    (h : a.load blob = .ok g) : g.Valid := by
  obtain ⟨d, hd⟩ := Archive.exists_of_load h
  exact Snapshot.valid_of_ofDocument hd

namespace Store

variable {s : Store}

theorem Sound.restore (h : s.Sound) (a : Archive) (blob : String) :
    (s.restore a blob).2.Sound := by
  unfold Store.restore
  cases hload : a.load blob with
  | error f => exact h
  | ok g => exact h.replaceWith (Archive.valid_of_load hload)

/-- A command creates a node, clears the graph or only looks at it. -/
theorem Sound.step {state : Store × Supply} (h : state.1.Sound) (c : Command) :
    (Store.step state c).2.1.Sound := by
  obtain ⟨s, supply⟩ := state
  unfold Store.step execute
  cases c.action with
  | create name type properties =>
    have hnext := h.createNode
      ⟨.text type, properties.entries.map fun e => (e.1, Document.scalar e.2), [], none⟩ supply
    dsimp only at hnext ⊢
    split
    · rename_i heq
      rw [heq] at hnext
      exact hnext
    · rename_i heq
      rw [heq] at hnext
      exact hnext
  | clear => exact Sound.clear s
  -- the other commands leave the store as it is
  | _ => exact h

theorem Sound.runBatch (h : s.Sound) (rules : BatchRules) (text : String) (supply : Supply) :
    (s.runBatch rules text supply).2.1.Sound := by
  show (Batch.run rules Store.step (s, supply) text).2.1.Sound
  exact Batch.run_preserves (P := fun state => state.1.Sound) (fun _ c hstate => hstate.step c)
    rules text (s, supply) h

/-- **Soundness is preserved by every call**, if what is imported has well-formed elements. -/
theorem sound_call (h : s.Sound) (supply : Supply) (c : Call)
    (hg : ∀ g, c.imported? = some g → g.Valid) : (s.call supply c).2.1.Sound := by
  cases c with
  | createNode draft => exact h.createNode draft supply
  | updateNode id change => exact h.updateNode id change supply
  | deleteNode id => exact h.deleteNode id
  | createRelationship draft => exact h.createRelationship draft supply
  | updateRelationship id change => exact h.updateRelationship id change supply
  | deleteRelationship id => exact h.deleteRelationship id
  | clear => exact Sound.clear s
  | checkSnapshot g replace => exact h
  | importSnapshot g => exact h.importSnapshot (hg g rfl)
  | restore a blob => exact h.restore a blob
  | runBatch rules text => exact h.runBatch rules text supply

theorem sound_of_reachable (h : Reachable s) : s.Sound := by
  -- over the calls that lead to the store, and to the stores whose snapshots it imported
  induction h with
  | empty policy => exact Sound.empty policy
  | call _ supply c hc ih =>
    refine sound_call ih supply c ?_
    intro g hg
    rw [hc] at hg
    exact absurd hg (by simp)
  | importRead _ supply hg ih =>
    refine sound_call ih supply _ ?_
    intro g' hg'
    rw [← Option.some.inj hg']
    exact Snapshot.valid_of_ofDocument hg
  | importTaken _ supply _ ih iht =>
    refine sound_call ih supply _ ?_
    intro g hg
    rw [← Option.some.inj hg]
    exact iht.snapshot_valid

/-! ## Ids -/

theorem Sound.nodeIds_eq (h : s.Sound) : s.nodes.values.map Node.id = s.nodes.keys := by
  unfold OrderedMap.values OrderedMap.keys
  rw [List.map_map]
  exact List.map_congr_left fun e he => (h.nodes_keyed e he).symm

theorem Sound.relationshipIds_eq (h : s.Sound) :
    s.relationships.values.map Relationship.id = s.relationships.keys := by
  unfold OrderedMap.values OrderedMap.keys
  rw [List.map_map]
  exact List.map_congr_left fun e he => (h.relationships_keyed e he).symm

/--
**Whatever calls are made, the store stays sound.** Its elements stand under their own ids, no id
occurs twice, no relationship dangles, every element is well formed, and there are self-loops only
if they are allowed.
-/
theorem reachable_sound (h : Reachable s) :
    s.Sound ∧ (s.nodes.values.map Node.id).Nodup
      ∧ (s.relationships.values.map Relationship.id).Nodup := by
  have hs := sound_of_reachable h
  refine ⟨hs, ?_, ?_⟩
  · rw [hs.nodeIds_eq]
    exact s.nodes.nodup_keys
  · rw [hs.relationshipIds_eq]
    exact s.relationships.nodup_keys

/-- A store that does not allow self-loops, after one was refused. -/
theorem reachable_sound_sample :
    (sample ⟨true, false⟩).relationships.keys = ["r", "s"] ∧ (sample ⟨true, false⟩).Sound :=
  ⟨by decide, (reachable_sound (Reachable.sample ⟨true, false⟩)).1⟩

end Store

end PropertyGraph
