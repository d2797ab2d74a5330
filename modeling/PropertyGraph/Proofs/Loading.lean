import PropertyGraph.Proofs.ClockText
import PropertyGraph.Proofs.Restore

/-!
# Loading what has been stored

An archive gives back what it was given: `load_store`. What a snapshot may lose on the way through
its text is what `Properties.Restored` tells of property maps, and nothing else. The date-times of
the calendar are read back from their texts, so of these nothing is lost either. An integer with
too many digits has no text, and a snapshot with one is not stored.
-/

namespace PropertyGraph

/-- A snapshot after it was stored and loaded. -/
structure Snapshot.Restored (g g' : Snapshot) : Prop where
  name : g'.name = g.name
  description : g'.description = g.description
  /-- The nodes are there, in their order. -/
  nodes : List.Forall₂ Node.Restored g.nodes g'.nodes
  /-- The relationships are there, in their order. -/
  relationships : List.Forall₂ Relationship.Restored g.relationships g'.relationships

theorem Snapshot.restored_stored (g : Snapshot) : g.Restored g.stored where
  name := rfl
  description := rfl
  nodes := by
    unfold stored
    rw [List.forall₂_map_right_iff, List.forall₂_same]
    exact fun n _ => n.restored_stored
  relationships := by
    unfold stored
    rw [List.forall₂_map_right_iff, List.forall₂_same]
    exact fun r _ => r.restored_stored

namespace Archive

/--
**What has been stored can be loaded.** A snapshot whose integers can be written is stored. The blob
that an archive says it has stored it under can be loaded from it, and is the same snapshot, field
by field; only the keys of property maps have been put in order, and their floats that are not
finite have given way to nothing.
-/
theorem load_store (a : Archive) {g : Snapshot} (h : g.Valid)
    (hw : ∀ r ∈ g.relationships, r.Weighable) (hl : g.Legible) (hint : g.isWritable = true)
    (clock : Clock) :
    ∃ receipt g', (a.store g clock).1 = .ok receipt
      ∧ (a.store g clock).2.1.load receipt.blob = .ok g' ∧ g.Restored g' := by
  rw [a.store_of_writable clock hint]
  exact ⟨_, g.stored, rfl, a.load_put h hw hl hint, g.restored_stored⟩

/-- Scalars of every kind, under keys that are not in order, and clocks with and without offset. -/
def mixed : Snapshot where
  nodes :=
    [⟨"a", "A", .ofList [("up", .bool true), ("one", .int 1), ("half", .float 0.5),
        ("far", .float Decimal.infinity), ("digit", .text "1"), ("gap", .null)], ["x", "y"],
        ⟨0, none⟩, ⟨1500000, some 19800⟩⟩]
  relationships := [⟨"l", "T", "a", "b", ∅, some 0.5, ⟨-1, some (-3600)⟩, ⟨0, some 0⟩⟩]
  name := some "n"
  description := none

theorem load_store_mixed : mixed.Valid ∧ (∀ r ∈ mixed.relationships, r.Weighable)
    ∧ mixed.Legible ∧ mixed.isWritable = true
    ∧ ∃ receipt g', (empty.store mixed (.still 0)).1 = .ok receipt
      ∧ (empty.store mixed (.still 0)).2.1.load receipt.blob = .ok g' ∧ mixed.Restored g' := by
  have hvalid : mixed.Valid := by
    refine ⟨List.forall_mem_singleton.mpr ⟨by decide, by decide, ?_, ?_⟩,
      List.forall_mem_singleton.mpr ⟨by decide, by decide, ?_, by decide, by decide, ?_⟩⟩
    · exact Text.trimmed_of_forall (List.forall_mem_singleton.mpr rfl)
    · exact Properties.valid_iff.mpr (by decide +kernel)
    · exact Text.trimmed_of_forall (List.forall_mem_singleton.mpr rfl)
    · exact Properties.valid_empty
  have hweights : ∀ r ∈ mixed.relationships, r.Weighable := by
    have hpositive : ¬ (0.5 : Float) ≤ 0 := by decide +kernel
    have hcheck : Relationship.checkWeight (some 0.5) = .accepted (some 0.5) := by
      rw [Relationship.checkWeight, if_neg hpositive]
    exact List.forall_mem_singleton.mpr hcheck
  have hlegible : mixed.Legible := by
    have hclock : ∀ t : DateTime, t ∈ [⟨0, none⟩, ⟨1500000, some 19800⟩, ⟨-1, some (-3600)⟩,
        ⟨0, some 0⟩] → t.Writable := by
      decide +kernel
    refine ⟨List.forall_mem_singleton.mpr ⟨?_, ?_, ?_⟩,
      List.forall_mem_singleton.mpr ⟨?_, ?_, ?_, ?_⟩⟩
    · intro x hx hfin
      have hmem : Scalar.float x ∈ [.bool true, .int 1, .float 0.5, .float Decimal.infinity,
          .text "1", .null] := hx
      have hvalues : x = 0.5 ∨ x = Decimal.infinity := by simpa using hmem
      rcases hvalues with rfl | rfl
      · exact Json.readsBack_half
      · exact absurd hfin (by decide +kernel)
    · exact (hclock _ (by simp)).readsBack
    · exact (hclock _ (by simp)).readsBack
    · intro x hx
      exact absurd hx List.not_mem_nil
    · intro x hx
      rw [← Option.some.inj hx]
      exact Json.readsBack_half
    · exact (hclock _ (by simp)).readsBack
    · exact (hclock _ (by simp)).readsBack
  have hwritable : mixed.isWritable = true := by decide +kernel
  exact ⟨hvalid, hweights, hlegible, hwritable,
    load_store empty hvalid hweights hlegible hwritable (.still 0)⟩

end Archive

end PropertyGraph
