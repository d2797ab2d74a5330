import PropertyGraph.Proofs.Recheck
import PropertyGraph.Proofs.Sound

/-!
# Where relationships come from

Every relationship of a store was put in by a creation or an update, which accepted it, or came with
a snapshot. `Call.Maintains` says of a call that a property holds of what it puts in, as far as it
holds of what is there; then it holds throughout the store after the call.

In a reachable store a snapshot was read from a document or taken from another store. So what both
ways of accepting a relationship guarantee holds of all of them: `forall_relationships`. That no
weight is at most zero is one of these guarantees.
-/

namespace PropertyGraph

/-- Whether a property holds of the relationships that a call puts in, as far as it holds of the
ones that are there. -/
def Call.Maintains (P : Relationship → Prop) : Call → Prop
  | .createRelationship draft => ∀ id type t r,
    Relationship.check id type draft.source draft.target
      (OrderedMap.ofList draft.properties).entries draft.weight t t = .accepted r → P r
  | .updateRelationship _ change => ∀ q t r, P q →
    Relationship.check q.id q.type q.source q.target
      (q.properties.changed change.properties change.replace) (q.weightAfter change) q.createdAt t
      = .accepted r → P r
  | .importSnapshot g => ∀ r ∈ g.relationships, P r
  | .restore a blob => ∀ g, a.load blob = .ok g → ∀ r ∈ g.relationships, P r
  | _ => True

/-- What is guaranteed is maintained by every call, if an import brings nothing else. -/
theorem Relationship.Guaranteed.maintains {P : Relationship → Prop} (hP : Guaranteed P) {c : Call}
    (hg : ∀ g, c.imported? = some g → ∀ r ∈ g.relationships, P r) : c.Maintains P := by
  cases c with
  | createRelationship draft => exact fun _ _ _ _ hr => hP.of_check hr
  | updateRelationship id change => exact fun _ _ _ _ hr => hP.of_check hr
  | importSnapshot g => exact hg g rfl
  | restore a blob =>
    intro g hload
    obtain ⟨d, hd⟩ := Archive.exists_of_load hload
    exact hP.of_snapshot hd
  | _ => trivial

namespace Store

variable {s : Store} {P : Relationship → Prop}

/-- What holds of every relationship of a store. -/
def Throughout (P : Relationship → Prop) (s : Store) : Prop :=
  ∀ e ∈ s.relationships.entries, P e.2

theorem Throughout.insert {t : Store} (h : s.Throughout P) {id : String} {r : Relationship}
    (hr : P r) (ht : t.relationships = s.relationships.insert id r) : t.Throughout P := by
  intro e he
  rw [ht] at he
  rcases OrderedMap.mem_entries_insert.mp he with rfl | ⟨he, -⟩
  · exact hr
  · exact h e he

theorem Throughout.createNode (h : s.Throughout P) (draft : NodeDraft) (supply : Supply) :
    (s.createNode draft supply).2.1.Throughout P := by
  rcases createNode_cases s draft supply with
    ⟨e, tokens, heq⟩ | ⟨vs, tokens, heq⟩ | ⟨type, tokens, n, -, -, -, heq⟩
  all_goals
    rw [heq]
    exact h

theorem Throughout.updateNode (h : s.Throughout P) (id : String) (change : NodeChange)
    (supply : Supply) : (s.updateNode id change supply).2.1.Throughout P := by
  rcases updateNode_cases s id change supply with ⟨e, heq⟩ | ⟨vs, heq⟩ | ⟨n, n', -, -, heq⟩
  all_goals
    rw [heq]
    exact h

theorem Throughout.deleteNode (h : s.Throughout P) (id : String) :
    (s.deleteNode id).2.Throughout P := by
  rcases deleteNode_cases s id with ⟨e, heq⟩ | ⟨-, heq⟩
  · rw [heq]
    exact h
  · rw [heq]
    exact fun e he => h e (OrderedMap.mem_entries_foldl_erase.mp he).1

theorem Throughout.createRelationship (h : s.Throughout P) {draft : RelationshipDraft}
    (hP : (Call.createRelationship draft).Maintains P) (supply : Supply) :
    (s.createRelationship draft supply).2.1.Throughout P := by
  rcases createRelationship_cases s draft supply with
    ⟨e, tokens, heq⟩ | ⟨vs, tokens, heq⟩ | ⟨type, tokens, r, -, -, hr, heq⟩
  · rw [heq]
    exact h
  · rw [heq]
    exact h
  · rw [heq]
    exact Throughout.insert h (hP _ _ _ r hr) rfl

theorem Throughout.updateRelationship (h : s.Throughout P) {id : String}
    {change : RelationshipChange} (hP : (Call.updateRelationship id change).Maintains P)
    (supply : Supply) : (s.updateRelationship id change supply).2.1.Throughout P := by
  rcases updateRelationship_cases s id change supply with
    ⟨e, heq⟩ | ⟨vs, heq⟩ | ⟨r, r', hmem, hr, heq⟩
  · rw [heq]
    exact h
  · rw [heq]
    exact h
  · rw [heq]
    exact Throughout.insert h (hP r _ r' (h _ hmem) hr) rfl

theorem Throughout.deleteRelationship (h : s.Throughout P) (id : String) :
    (s.deleteRelationship id).2.Throughout P := by
  rcases deleteRelationship_cases s id with ⟨e, heq⟩ | heq
  · rw [heq]
    exact h
  · rw [heq]
    exact fun e he => h e (OrderedMap.mem_entries_erase.mp he).1

theorem throughout_clear (s : Store) : s.clear.Throughout P :=
  fun _ he => absurd he (by simp [clear])

theorem Throughout.takeSnapshot (h : s.Throughout P) {g : Snapshot}
    (hg : ∀ r ∈ g.relationships, P r) (hadm : s.Admits g) : (s.takeSnapshot g).Throughout P := by
  intro e he
  rw [entries_relationships_takeSnapshot hadm, List.mem_append, List.mem_map] at he
  rcases he with he | ⟨r, hr, rfl⟩
  · exact h e he
  · exact hg r hr

theorem Throughout.importSnapshot (h : s.Throughout P) {g : Snapshot}
    (hg : ∀ r ∈ g.relationships, P r) : (s.importSnapshot g).2.Throughout P := by
  rcases importSnapshot_cases s g with ⟨e, -, heq⟩ | ⟨hadm, heq⟩
  · rw [heq]
    exact h
  · rw [heq]
    exact h.takeSnapshot hg hadm

theorem Throughout.restore (h : s.Throughout P) {a : Archive} {blob : String}
    (hP : (Call.restore a blob).Maintains P) : (s.restore a blob).2.Throughout P := by
  unfold Store.restore
  cases hload : a.load blob with
  | error f => exact h
  | ok g =>
    show (s.replaceWith g).2.Throughout P
    rcases replaceWith_cases s g with ⟨e, -, heq⟩ | ⟨hadm, heq⟩
    · rw [heq]
      exact h
    · rw [heq]
      exact (throughout_clear s).takeSnapshot (hP g hload) hadm

theorem Throughout.step {state : Store × Supply} (h : state.1.Throughout P) (c : Command) :
    (Store.step state c).2.1.Throughout P := by
  obtain ⟨s, supply⟩ := state
  unfold Store.step execute
  cases c.action with
  | create name type properties =>
    have hnext := h.createNode
      ⟨.text type, properties.entries.map fun e => (e.1, Document.scalar e.2), [], none⟩ supply
    dsimp only at hnext ⊢
    split
    · rename_i heq
      rw [heq] at hnext
      exact hnext
    · rename_i heq
      rw [heq] at hnext
      exact hnext
  | clear => exact throughout_clear s
  | _ => exact h

theorem Throughout.runBatch (h : s.Throughout P) (rules : BatchRules) (text : String)
    (supply : Supply) : (s.runBatch rules text supply).2.1.Throughout P := by
  show (Batch.run rules Store.step (s, supply) text).2.1.Throughout P
  exact Batch.run_preserves (P := fun state => state.1.Throughout P)
    (fun _ c hstate => hstate.step c) rules text (s, supply) h

/-- **What a call maintains holds throughout the store that it leaves.** -/
theorem Throughout.call (h : s.Throughout P) (supply : Supply) {c : Call} (hP : c.Maintains P) :
    (s.call supply c).2.1.Throughout P := by
  cases c with
  | createNode draft => exact h.createNode draft supply
  | updateNode id change => exact h.updateNode id change supply
  | deleteNode id => exact h.deleteNode id
  | createRelationship draft => exact h.createRelationship hP supply
  | updateRelationship id change => exact h.updateRelationship hP supply
  | deleteRelationship id => exact h.deleteRelationship id
  | clear => exact throughout_clear s
  | checkSnapshot g replace => exact h
  | importSnapshot g => exact h.importSnapshot hP
  | restore a blob => exact h.restore hP
  | runBatch rules text => exact h.runBatch rules text supply

/-- **What every way of accepting a relationship guarantees holds throughout reachable stores.** -/
theorem forall_relationships (hP : Relationship.Guaranteed P) (h : Reachable s) :
    s.Throughout P := by
  induction h with
  | empty policy => exact fun _ he => absurd he (by simp [Store.empty])
  | call _ supply c hc ih =>
    refine ih.call supply (hP.maintains fun g hg => ?_)
    rw [hc] at hg
    exact absurd hg (by simp)
  | importRead _ supply hg ih =>
    refine ih.call supply (hP.maintains fun g' hg' => ?_)
    rw [← Option.some.inj hg']
    exact hP.of_snapshot hg
  | importTaken _ supply _ ih iht =>
    refine ih.call supply (hP.maintains fun g hg => ?_)
    rw [← Option.some.inj hg]
    intro r hr
    obtain ⟨k, hk⟩ := OrderedMap.mem_values.mp hr
    exact iht (k, r) hk

end Store

end PropertyGraph
