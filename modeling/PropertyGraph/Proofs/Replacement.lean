import PropertyGraph.Proofs.Restore

/-!
# What a restoration depends on

To restore a graph is to put a snapshot in the place of all that a store holds. What decides is
whether the snapshot is a graph by itself, and whether the store puts up with its self-loops; what
the store held before plays no part. The check is made as if the store were empty, and what is left
of its answer after that is `Snapshot.Stands`: `restore_of_loaded`.
-/

namespace PropertyGraph

/-- A snapshot that is a graph by itself, with self-loops if they are allowed. -/
structure Snapshot.Stands (g : Snapshot) (selfLoops : Bool) : Prop where
  /-- No two nodes have one id. -/
  nodes_nodup : g.nodeIds.Nodup
  /-- No two relationships have one id. -/
  relationships_nodup : (g.relationships.map Relationship.id).Nodup
  /-- Relationships come from nodes of the snapshot itself, -/
  source_mem : ∀ r ∈ g.relationships, r.source ∈ g.nodeIds
  /-- and go to such nodes. -/
  target_mem : ∀ r ∈ g.relationships, r.target ∈ g.nodeIds
  /-- Where self-loops are forbidden there is none. -/
  loopless : selfLoops = false → ∀ r ∈ g.relationships, r.source ≠ r.target

namespace Store

variable {s t : Store} {g : Snapshot}

/-- A store that holds the elements of a snapshot, in their order, and nothing else. -/
structure HoldsJust (s : Store) (g : Snapshot) : Prop where
  nodes : s.nodes.entries = g.nodes.map fun n => (n.id, n)
  relationships : s.relationships.entries = g.relationships.map fun r => (r.id, r)

/-- An emptied store admits the snapshots that are graphs by themselves. -/
theorem clear_admits_iff : s.clear.Admits g ↔ g.Stands s.policy.allowSelfLoops := by
  have hnone : ∀ id, id ∉ s.clear.nodes.keys := fun _ => List.not_mem_nil
  constructor
  · intro h
    exact
      { nodes_nodup := h.nodes_nodup
        relationships_nodup := h.relationships_nodup
        source_mem := fun r hr => (h.source r hr).resolve_left (hnone _)
        target_mem := fun r hr => (h.target r hr).resolve_left (hnone _)
        loopless := fun hno r hr hloop => absurd (h.loops r hr hloop) (by simp [clear, hno]) }
  · intro h
    exact
      { nodes_new := fun _ _ => hnone _
        nodes_nodup := h.nodes_nodup
        relationships_new := fun _ _ => List.not_mem_nil
        relationships_nodup := h.relationships_nodup
        source := fun r hr => Or.inr (h.source_mem r hr)
        target := fun r hr => Or.inr (h.target_mem r hr)
        loops := fun r hr hloop => by
          by_contra hno
          exact h.loopless ((Bool.not_eq_true _).mp hno) r hr hloop }

theorem holdsJust_takeSnapshot_clear (h : s.clear.Admits g) :
    (s.clear.takeSnapshot g).HoldsJust g :=
  ⟨entries_nodes_takeSnapshot h, entries_relationships_takeSnapshot h⟩

/-- The check before a replacement looks at the policy about self-loops and at nothing else. -/
theorem checkSnapshot_replace_congr (h : t.policy.allowSelfLoops = s.policy.allowSelfLoops)
    (g : Snapshot) : t.checkSnapshot g true = s.checkSnapshot g true := by
  unfold checkSnapshot
  rw [h]
  rfl

theorem replaceWith_congr (h : t.policy.allowSelfLoops = s.policy.allowSelfLoops) (g : Snapshot) :
    (t.replaceWith g).1 = (s.replaceWith g).1 := by
  have hcheck := checkSnapshot_replace_congr h g
  rcases replaceWith_cases s g with ⟨e, he, heq⟩ | ⟨hadm, heq⟩
  · unfold replaceWith
    rw [hcheck, he]
  · have hadm' : t.clear.Admits g := by
      rw [clear_admits_iff] at hadm ⊢
      rwa [h]
    rw [heq, replaceWith_of_admits hadm']

/--
**A restoration depends on the blob and on the policy about self-loops.** Once its snapshot is
loaded, a graph is restored exactly if the snapshot is a graph by itself, with self-loops only if
the store allows them. The store then holds the elements of the snapshot and nothing else; otherwise
it is as it was. Any store with the same policy about self-loops gives the same answer.
-/
theorem restore_of_loaded {a : Archive} {blob : String} {g : Snapshot} (h : a.load blob = .ok g)
    (s : Store) :
    ((∃ counts, (s.restore a blob).1 = .ok counts) ↔ g.Stands s.policy.allowSelfLoops)
    ∧ (∀ counts, (s.restore a blob).1 = .ok counts →
      counts = (g.nodes.length, g.relationships.length) ∧ (s.restore a blob).2.HoldsJust g
        ∧ (s.restore a blob).2.policy = s.policy)
    ∧ (∀ f, (s.restore a blob).1 = .error f → (s.restore a blob).2 = s)
    ∧ ∀ t : Store, t.policy.allowSelfLoops = s.policy.allowSelfLoops →
      (t.restore a blob).1 = (s.restore a blob).1 := by
  have hpolicy : ∀ t : Store, t.policy.allowSelfLoops = s.policy.allowSelfLoops →
      (t.restore a blob).1 = (s.restore a blob).1 := by
    intro t ht
    rw [restore_of_load h, restore_of_load h]
    exact congrArg (·.mapError RestoreFault.graph) (replaceWith_congr ht g)
  rw [restore_of_load h] at hpolicy ⊢
  rcases replaceWith_cases s g with ⟨e, he, heq⟩ | ⟨hadm, heq⟩
  · -- what is refused by the check is no graph by itself
    have hnot : ¬ g.Stands s.policy.allowSelfLoops := by
      intro hstands
      have hok : s.checkSnapshot g true = .ok () :=
        checkSnapshot_eq_ok_iff.mpr (clear_admits_iff.mpr hstands)
      exact absurd (he.symm.trans hok) (by simp)
    rw [heq] at hpolicy ⊢
    refine ⟨⟨?_, fun hstands => absurd hstands hnot⟩, ?_, fun _ _ => rfl, hpolicy⟩
    · rintro ⟨counts, hcounts⟩
      exact absurd hcounts (by simp [Except.mapError])
    · intro counts hcounts
      exact absurd hcounts (by simp [Except.mapError])
  · rw [heq] at hpolicy ⊢
    refine ⟨⟨fun _ => clear_admits_iff.mp hadm, fun _ => ⟨_, rfl⟩⟩, ?_, ?_, hpolicy⟩
    · intro counts hcounts
      exact ⟨(Except.ok.inj hcounts).symm, holdsJust_takeSnapshot_clear hadm, takeSnapshot_policy g⟩
    · intro f hf
      exact absurd hf (by simp [Except.mapError])

/-- A node, and a relationship from it to a node that is not there. -/
def stray : Snapshot where
  nodes := [⟨"a", "A", ∅, [], .ofInstant 0, .ofInstant 0⟩]
  relationships := [⟨"l", "T", "a", "b", ∅, none, .ofInstant 0, .ofInstant 0⟩]
  name := none
  description := none

theorem load_stray : (Archive.empty.put (Archive.blobId stray) (Archive.bytes stray)).load
    (Archive.blobId stray) = .ok stray.stored := by
  have hno : ∀ x : Float, x ∉ (none : Option Float) := fun _ => Option.not_mem_none _
  have hempty : ∀ x : Float, Scalar.float x ∉ (∅ : Properties).values := fun _ => List.not_mem_nil
  refine Archive.empty.load_put ⟨?_, ?_⟩ ?_ ⟨?_, ?_⟩ (by decide +kernel)
  · exact List.forall_mem_singleton.mpr ⟨by decide, by decide,
      Text.trimmed_of_forall (List.forall_mem_singleton.mpr rfl), Properties.valid_empty⟩
  · exact List.forall_mem_singleton.mpr ⟨by decide, by decide,
      Text.trimmed_of_forall (List.forall_mem_singleton.mpr rfl), by decide, by decide,
      Properties.valid_empty⟩
  · exact List.forall_mem_singleton.mpr rfl
  · exact List.forall_mem_singleton.mpr ⟨fun x hx => absurd hx (hempty x), rfl, rfl⟩
  · exact List.forall_mem_singleton.mpr ⟨fun x hx => absurd hx (hempty x),
      fun x hx => absurd hx (hno x), rfl, rfl⟩

/--
Ids that the store holds are no obstacle to a graph that has them too, and a node that only the
store holds is no end for a relationship of the snapshot.
-/
theorem restore_of_loaded_sample :
    let published := Shelf.empty.publish weighed.snapshot ⟨"n", "d", false, []⟩
      ⟨⟨[], fun _ => "", 0⟩, .still 0⟩
    let archive := Archive.empty.put (Archive.blobId stray) (Archive.bytes stray)
    (∃ receipt record counts, published.1 = .ok (receipt, record)
        ∧ ((sample ⟨true, true⟩).restore published.2.1.archive receipt.blob).1 = .ok counts)
      ∧ (sample ⟨true, true⟩).restore archive (Archive.blobId stray)
        = (.error (.graph (.danglingEnd "l" "b")), sample ⟨true, true⟩) := by
  have hstands : (Publication.snapshot ⟨"n", "d", false, []⟩ weighed.snapshot).stored.Stands true :=
    ⟨by decide +kernel, by decide +kernel, by decide +kernel, by decide +kernel,
      fun h => absurd h (by simp)⟩
  obtain ⟨receipt, record, hok, -, hload⟩ := load_publish reachable_weighed legible_weighed
    (by decide +kernel) Shelf.empty ⟨"n", "d", false, []⟩ ⟨⟨[], fun _ => "", 0⟩, .still 0⟩
  obtain ⟨counts, hcounts⟩ := (restore_of_loaded hload (sample ⟨true, true⟩)).1.mpr hstands
  have hstray := restore_of_loaded load_stray (sample ⟨true, true⟩)
  have herror : ((sample ⟨true, true⟩).restore
      (Archive.empty.put (Archive.blobId stray) (Archive.bytes stray)) (Archive.blobId stray)).1
        = .error (.graph (.danglingEnd "l" "b")) := by
    rw [restore_of_load load_stray]
    rfl
  exact ⟨⟨receipt, record, counts, hok, hcounts⟩, Prod.ext herror (hstray.2.2.1 _ herror)⟩

end Store

end PropertyGraph
