import PropertyGraph.Proofs.Operations
import PropertyGraph.Proofs.Reachable

/-!
# What refused calls leave

Every operation but a batch makes all its checks before its first change, so when it is refused the
elements are as they were. A creation or an update takes its stamp before the last check, so that
may be used up; nothing else is.

Restoring is the delicate one. It clears the store between two checks of the same snapshot, and a
refusal by the second would leave the store empty. It cannot happen: the first check is made as if
the store were empty already, and `checkSnapshot_eq_ok_iff` says that both ask for the same.
-/

namespace PropertyGraph

namespace Store

variable {s left : Store} {c : Call} {supply : Supply} {r : Refusal}

/-- What a refused call leaves of a store. -/
structure Spares (s : Store) (c : Call) (left : Store) : Prop where
  /-- The policy is the same. -/
  policy : left.policy = s.policy
  /-- The nodes are the same, in the same order. -/
  nodes : left.nodes = s.nodes
  /-- The relationships are the same, in the same order. -/
  relationships : left.relationships = s.relationships
  /-- The last stamp is not an earlier one. -/
  last_le : ∀ last, s.lastStamp = some last →
    ∃ last', left.lastStamp = some last' ∧ last.instant ≤ last'.instant
  /-- Only a creation or an update may have taken a stamp. -/
  exactly : c.stamps = false → left = s

theorem Spares.refl (s : Store) (c : Call) : s.Spares c s :=
  ⟨rfl, rfl, rfl, fun last h => ⟨last, h, Int.le_refl _⟩, fun _ => rfl⟩

theorem Spares.stamped (s : Store) (supply : Supply) (hc : c.stamps = true) :
    s.Spares c (s.stamped supply) where
  policy := rfl
  nodes := rfl
  relationships := rfl
  last_le := by
    intro last h
    exact ⟨_, stamped_lastStamp supply, le_stamp supply h⟩
  exactly := by
    intro hno
    rw [hc] at hno
    exact Bool.noConfusion hno

/-- A refused call, other than a batch, spares the store. -/
theorem spares_call (hc : c.isBatch = false) (h : (s.call supply c).1 = some r) :
    s.Spares c (s.call supply c).2.1 := by
  cases c with
  | createNode draft =>
    rw [call] at h ⊢
    rcases createNode_cases s draft supply with
      ⟨e, tokens, heq⟩ | ⟨vs, tokens, heq⟩ | ⟨_, tokens, n, _, _, _, heq⟩
    · rw [heq]
      exact Spares.refl s _
    · -- refused with the stamp already taken
      rw [heq]
      exact Spares.stamped s _ rfl
    · rw [heq] at h
      cases h
  | updateNode id change =>
    rw [call] at h ⊢
    rcases updateNode_cases s id change supply with
      ⟨e, heq⟩ | ⟨vs, heq⟩ | ⟨n, n', _, _, heq⟩
    · rw [heq]
      exact Spares.refl s _
    · rw [heq]
      exact Spares.stamped s _ rfl
    · rw [heq] at h
      cases h
  | deleteNode id =>
    rw [call] at h ⊢
    rcases deleteNode_cases s id with ⟨e, heq⟩ | ⟨_, heq⟩
    · rw [heq]
      exact Spares.refl s _
    · rw [heq] at h
      cases h
  | createRelationship draft =>
    rw [call] at h ⊢
    rcases createRelationship_cases s draft supply with
      ⟨e, tokens, heq⟩ | ⟨vs, tokens, heq⟩ | ⟨_, tokens, q, _, _, _, heq⟩
    · rw [heq]
      exact Spares.refl s _
    · rw [heq]
      exact Spares.stamped s _ rfl
    · rw [heq] at h
      cases h
  | updateRelationship id change =>
    rw [call] at h ⊢
    rcases updateRelationship_cases s id change supply with
      ⟨e, heq⟩ | ⟨vs, heq⟩ | ⟨q, q', _, _, heq⟩
    · rw [heq]
      exact Spares.refl s _
    · rw [heq]
      exact Spares.stamped s _ rfl
    · rw [heq] at h
      cases h
  | deleteRelationship id =>
    rw [call] at h ⊢
    rcases deleteRelationship_cases s id with ⟨e, heq⟩ | heq
    · rw [heq]
      exact Spares.refl s _
    · rw [heq] at h
      cases h
  | clear => cases h
  | checkSnapshot g replace => exact Spares.refl s _
  | importSnapshot g =>
    rw [call] at h ⊢
    rcases importSnapshot_cases s g with ⟨e, _, heq⟩ | ⟨_, heq⟩
    · rw [heq]
      exact Spares.refl s _
    · rw [heq] at h
      cases h
  | restore a blob =>
    rw [call, restore] at h ⊢
    cases hload : a.load blob with
    | error f => exact Spares.refl s _
    | ok g =>
      rw [hload] at h
      dsimp only at h ⊢
      -- with a snapshot at hand it is the first check that refuses, if anything does
      rcases replaceWith_cases s g with ⟨e, _, heq⟩ | ⟨_, heq⟩
      · rw [heq]
        exact Spares.refl s _
      · rw [heq] at h
        cases h
  | runBatch rules text => cases hc

/-- A refusal to restore comes from the archive or from the check before the clearing. -/
theorem restore_refused {a : Archive} {blob : String} {f : RestoreFault}
    (h : (s.restore a blob).1 = .error f) :
    (∃ fault, a.load blob = .error fault ∧ f = .archive fault)
    ∨ ∃ g e, a.load blob = .ok g ∧ s.checkSnapshot g true = .error e ∧ f = .graph e := by
  unfold restore at h
  cases hload : a.load blob with
  | error fault =>
    rw [hload] at h
    exact Or.inl ⟨fault, rfl, (Except.error.inj h).symm⟩
  | ok g =>
    rw [hload] at h
    dsimp only at h
    rcases replaceWith_cases s g with ⟨e, hcheck, heq⟩ | ⟨_, heq⟩
    · rw [heq] at h
      exact Or.inr ⟨g, e, rfl, hcheck, (Except.error.inj h).symm⟩
    · rw [heq] at h
      cases h

/--
**A refused call changes no element.** Creations and updates may have moved the last stamp forward;
deletions, checks, imports and restorations leave the store exactly as it was. Restoring is refused
before it clears the store or not at all: what passed the check can be imported after that.
-/
theorem refused_spares (s : Store) (supply : Supply) :
    (∀ c r, c.isBatch = false → (s.call supply c).1 = some r → s.Spares c (s.call supply c).2.1)
    ∧ (∀ a blob f, (s.restore a blob).1 = .error f →
      (∃ fault, a.load blob = .error fault ∧ f = .archive fault)
      ∨ ∃ g e, a.load blob = .ok g ∧ s.checkSnapshot g true = .error e ∧ f = .graph e)
    ∧ ∀ g, s.checkSnapshot g true = .ok () →
      s.clear.importSnapshot g
        = (.ok (g.nodes.length, g.relationships.length), s.clear.takeSnapshot g) :=
  ⟨fun _ _ => spares_call, fun _ _ _ => restore_refused, fun _ => importSnapshot_clear⟩

/-- Without cascading deletes a node that is joined to others stays, and so does all else. -/
theorem refused_spares_deleteNode :
    ((sample ⟨false, true⟩).call ⟨⟨[], fun _ => "", 0⟩, .still 0⟩ (.deleteNode "a")).1
        = some (.graph (.stillConnected "a" ["r", "s"]))
      ∧ ((sample ⟨false, true⟩).call ⟨⟨[], fun _ => "", 0⟩, .still 0⟩ (.deleteNode "a")).2.1
        = sample ⟨false, true⟩ :=
  ⟨rfl, ((refused_spares (sample ⟨false, true⟩) ⟨⟨[], fun _ => "", 0⟩, .still 0⟩).1
    (.deleteNode "a") _ rfl rfl).exactly rfl⟩

end Store

end PropertyGraph
