import Mathlib.Logic.Function.Basic
import PropertyGraph.Proofs.Canonical

/-!
# Ledger and archive agree

Graph stores that publish on one shelf change all the time, and so do the archive and the ledger on
it. Still every record tells the truth about its blob, whenever one looks: `recorded_blob_loads`.

A record is made together with its blob, of a store that can be reached, and is never changed; a
record with the same id takes its place as a whole. Blobs are only added, and without collisions a
blob that is put in the place of another is that blob. So it is enough to say of every record which
publication it is of, and that is kept by every step. A snapshot that cannot be written leaves
archive and ledger as they are.
-/

namespace PropertyGraph

/-- A call that imports, if anything, what was read from a document or taken from a store. -/
def Call.Sourced (c : Call) : Prop :=
  ∀ g, c.imported? = some g →
    (∃ d, Snapshot.ofDocument d = .ok g) ∨ ∃ t, Reachable t ∧ g = t.snapshot

/-- Graph stores that publish on one shelf. -/
structure Site where
  stores : Nat → Store
  shelf : Shelf

namespace Site

/-- A site without elements, blobs and records, its stores under any policies. -/
def vacant (policies : Nat → Policy) : Site := ⟨fun i => .empty (policies i), .empty⟩

/-- Makes a call to one of the stores. -/
def call (x : Site) (i : Nat) (supply : Supply) (c : Call) : Site :=
  { x with stores := Function.update x.stores i ((x.stores i).call supply c).2.1 }

/-- Stores a snapshot of which no record is made, or not yet. -/
def keep (x : Site) (g : Snapshot) (clock : Clock) : Site :=
  { x with shelf := { x.shelf with archive := (x.shelf.archive.store g clock).2.1 } }

/-- Publishes the graph of one of the stores. -/
def publish (x : Site) (i : Nat) (p : Publication) (supply : Supply) : Site :=
  { x with shelf := (x.shelf.publish (x.stores i).snapshot p supply).2.1 }

/-- The sites that can be reached, each with the snapshots that have been stored on the way. -/
inductive Reached : Site → List Snapshot → Prop where
  | vacant (policies : Nat → Policy) : Reached (vacant policies) []
  /-- After any call to any of the stores, refused or not. -/
  | call {x : Site} {gs : List Snapshot} (h : Reached x gs) (i : Nat) (supply : Supply) {c : Call}
    (hc : c.Sourced) : Reached (x.call i supply c) gs
  /-- After storing any snapshot, refused or not. -/
  | keep {x : Site} {gs : List Snapshot} (h : Reached x gs) (g : Snapshot) (clock : Clock) :
    Reached (x.keep g clock) (gs ++ Archive.taken g)
  /-- After publishing any of the graphs, refused or not, whatever ids are drawn. -/
  | publish {x : Site} {gs : List Snapshot} (h : Reached x gs) (i : Nat) (p : Publication)
    (supply : Supply) :
    Reached (x.publish i p supply) (gs ++ Archive.taken (p.snapshot (x.stores i).snapshot))

variable {x : Site} {gs : List Snapshot}

/-! ## What every step preserves -/

theorem reachable_call {s : Store} (h : Reachable s) (supply : Supply) {c : Call}
    (hc : c.Sourced) : Reachable (s.call supply c).2.1 := by
  -- an import is the only call that is handed a snapshot
  cases himported : c.imported? with
  | none => exact h.call supply c himported
  | some g =>
    obtain rfl : c = .importSnapshot g := by
      unfold Call.imported? at himported
      split at himported
      · rw [Option.some.inj himported]
      · exact absurd himported (by simp)
    rcases hc g rfl with ⟨d, hd⟩ | ⟨t, ht, rfl⟩
    · exact h.importRead supply hd
    · exact h.importTaken supply ht

/-- The stores of a site are changed by calls only. -/
theorem Reached.reachable (h : Reached x gs) (i : Nat) : Reachable (x.stores i) := by
  induction h with
  | vacant policies => exact .empty _
  | @call x gs _ j supply c hc ih =>
    by_cases hij : i = j
    · subst hij
      have hstep : (x.call i supply c).stores i = ((x.stores i).call supply c).2.1 :=
        Function.update_self ..
      rw [hstep]
      exact reachable_call ih supply hc
    · have hstep : (x.call j supply c).stores i = x.stores i := Function.update_of_ne hij ..
      rw [hstep]
      exact ih
  | keep _ _ _ ih => exact ih
  | publish _ _ _ _ ih => exact ih

/-- A publication stores its snapshot, if it can be written. -/
theorem archive_publish (s : Shelf) (g : Snapshot) (p : Publication) (supply : Supply) :
    (s.publish g p supply).2.1.archive = (s.archive.store (p.snapshot g) supply.clock).2.1 := by
  unfold Shelf.publish
  split <;> rename_i hstore <;> rw [hstore]

/-- The archive of a site is filled by storing only. -/
theorem Reached.filled (h : Reached x gs) : Archive.Filled gs x.shelf.archive := by
  induction h with
  | vacant policies => exact .empty
  | call _ _ _ _ ih => exact ih
  | keep _ g clock ih => exact ih.store g clock
  | @publish x gs _ i p supply ih =>
    have hfilled := ih.store (p.snapshot (x.stores i).snapshot) supply.clock
    rwa [← archive_publish] at hfilled

/-- A record is made of what is published, and takes the place of one with its id. -/
theorem mem_records_publish {s : Shelf} {g : Snapshot} {p : Publication} {supply : Supply}
    {r : Record} (h : r ∈ (s.publish g p supply).2.1.ledger.records.values) :
    (r.toRecordDraft = p.draft g (Archive.blobId (p.snapshot g))
        ∧ p.snapshot g ∈ Archive.taken (p.snapshot g))
      ∨ r ∈ s.ledger.records.values := by
  cases hg : g.isWritable with
  | false =>
    rw [s.publish_of_not_writable p supply hg] at h
    exact Or.inr h
  | true =>
    obtain ⟨-, -, -, -, -, supply', hledger⟩ := s.publish_of_writable p supply hg
    rw [hledger] at h
    obtain ⟨id, hid⟩ := OrderedMap.mem_values.mp h
    rcases OrderedMap.mem_entries_insert.mp hid with heq | ⟨hold, -⟩
    · refine Or.inl ⟨by rw [(Prod.mk.inj heq).2], ?_⟩
      rw [Archive.taken_of_writable ((p.isWritable_snapshot g).trans hg)]
      exact List.mem_cons_self
    · exact Or.inr (OrderedMap.mem_values.mpr ⟨id, hold⟩)

/-- A record says what there was to say of a store when it was published as one of the snapshots. -/
def OfPublication (gs : List Snapshot) (r : Record) : Prop :=
  ∃ (s : Store) (p : Publication), Reachable s ∧ p.snapshot s.snapshot ∈ gs
    ∧ r.toRecordDraft = p.draft s.snapshot (Archive.blobId (p.snapshot s.snapshot))

theorem OfPublication.mono {gs' : List Snapshot} {r : Record} (h : OfPublication gs r)
    (hsub : gs ⊆ gs') : OfPublication gs' r := by
  obtain ⟨s, p, hs, hmem, hr⟩ := h
  exact ⟨s, p, hs, hsub hmem, hr⟩

/-- Every record is of a publication, whatever has happened since. -/
theorem Reached.ofPublication (h : Reached x gs) :
    ∀ r ∈ x.shelf.ledger.records.values, OfPublication gs r := by
  -- only a publication adds a record, and what it is made of is stored at the same time
  induction h with
  | vacant policies => exact fun r hr => absurd hr List.not_mem_nil
  | call _ _ _ _ ih => exact ih
  | keep _ g clock ih => exact fun r hr => (ih r hr).mono (List.subset_append_left _ _)
  | @publish x gs h i p supply ih =>
    intro r hr
    rcases mem_records_publish hr with ⟨hnew, hmem⟩ | hold
    · exact ⟨x.stores i, p, h.reachable i, List.mem_append_right _ hmem, hnew⟩
    · exact (ih r hold).mono (List.subset_append_left _ _)

/-! ## Records and blobs -/

/-- A record that fits what its blob is loaded as. -/
structure Fits (r : Record) (g : Snapshot) : Prop where
  name : g.name = some r.name
  description : g.description = some r.description
  nodeCount : g.nodes.length = r.nodeCount
  relationshipCount : g.relationships.length = r.relationshipCount

theorem fits_of_draft {s : Store} {p : Publication} {r : Record} {blob : String}
    (h : r.toRecordDraft = p.draft s.snapshot blob) : Fits r (p.snapshot s.snapshot).stored where
  name := by
    rw [h]
    rfl
  description := by
    rw [h]
    rfl
  nodeCount := by
    rw [h]
    exact List.length_map _
  relationshipCount := by
    rw [h]
    exact List.length_map _

/--
**Every record has its blob.** At any time, as far as the snapshots that have been stored are read
back and no two of them collide, the blob of every record is in the archive and is loaded: as a
snapshot with the name, the description and the numbers of elements that the record says, which can
take the place of what is in any store that allows self-loops.
-/
theorem recorded_blob_loads (h : Reached x gs) (hl : ∀ g ∈ gs, g.Legible)
    (hno : Archive.NoCollision gs) : ∀ r ∈ x.shelf.ledger.records.values,
    r.blob ∈ x.shelf.archive.blobs.keys ∧ ∃ g, x.shelf.archive.load r.blob = .ok g ∧ Fits r g
      ∧ ∀ s : Store, s.policy.allowSelfLoops = true → s.checkSnapshot g true = .ok () := by
  intro r hr
  obtain ⟨s, p, hs, hmem, hdraft⟩ := h.ofPublication r hr
  have hblob : r.blob = Archive.blobId (p.snapshot s.snapshot) := by
    rw [hdraft]
    rfl
  have hload := h.filled.load hno hmem (Store.published_valid hs p) (Store.snapshot_weighable hs)
    (hl _ hmem)
  refine ⟨h.filled.mem_keys.mpr ⟨_, hmem, hblob.symm⟩, (p.snapshot s.snapshot).stored, ?_,
    fits_of_draft hdraft, fun t ht => ?_⟩
  · rw [hblob]
    exact hload
  · -- the store was sound when it was published, so its relationships join nodes of its own
    exact Store.checkSnapshot_eq_ok_iff.mpr
      ((Store.sound_of_reachable hs).admits_stored (fun _ => ht) p)

/-- A record tells of what was published also after the store has been cleared. -/
theorem recorded_blob_loads_cleared :
    let supply : Supply := ⟨⟨[], fun _ => "", 0⟩, .still 0⟩
    let p : Publication := ⟨"n", "d", false, []⟩
    let g := p.snapshot Store.weighed.snapshot
    let x := (((vacant fun _ => ⟨true, true⟩).call 0 supply
      (.importSnapshot Store.weighed.snapshot)).publish 0 p supply).call 0 supply .clear
    Reached x [g] ∧ g.Legible ∧ Archive.NoCollision [g] ∧ (x.stores 0).nodes.size = 0
    ∧ ∃ r ∈ x.shelf.ledger.records.values, r.name = "n" ∧ r.nodeCount = 1
      ∧ r.blob ∈ x.shelf.archive.blobs.keys ∧ ∃ g, x.shelf.archive.load r.blob = .ok g ∧ Fits r g
        ∧ ∀ s : Store, s.policy.allowSelfLoops = true → s.checkSnapshot g true = .ok () := by
  intro supply p g x
  have hsourced : (Call.importSnapshot Store.weighed.snapshot).Sourced := by
    intro g hg
    exact Or.inr ⟨_, Store.reachable_weighed, (Option.some.inj hg).symm⟩
  have hfilled := (Reached.vacant fun _ => ⟨true, true⟩).call 0 supply hsourced
  have hsame : (((vacant fun _ => ⟨true, true⟩).call 0 supply
      (.importSnapshot Store.weighed.snapshot)).stores 0).snapshot = Store.weighed.snapshot := by
    decide +kernel
  have hwritable : g.isWritable = true := by decide +kernel
  have hpublished := hfilled.publish 0 p supply
  rw [hsame, Archive.taken_of_writable hwritable, List.nil_append] at hpublished
  have hclear : Call.clear.Sourced := by
    intro g hg
    exact absurd hg (by simp [Call.imported?])
  have hreached : Reached x [g] := hpublished.call 0 supply hclear
  have hlegible : g.Legible := ⟨Store.legible_weighed.nodes, Store.legible_weighed.relationships⟩
  have hno : Archive.NoCollision [g] := by
    intro a ha b hb _
    rw [List.mem_singleton.mp ha, List.mem_singleton.mp hb]
  have hloads := recorded_blob_loads hreached (List.forall_mem_singleton.mpr hlegible) hno
  refine ⟨hreached, hlegible, hno, rfl, ?_⟩
  refine ⟨_, List.mem_cons_self, rfl, ?_, hloads _ List.mem_cons_self⟩
  rfl

end Site

end PropertyGraph
