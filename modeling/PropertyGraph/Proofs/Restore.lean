import Mathlib.Data.List.Forall2
import PropertyGraph.Proofs.Origin
import PropertyGraph.Proofs.Stored

/-!
# Restoring what has been published

A reachable store can be published, and what was published can be restored into any other store that
puts up with its self-loops: `restore_publish`. Soundness makes the snapshot one that an emptied
store admits, and what the archive loads is the snapshot as it is stored.
-/

namespace PropertyGraph

/-! ## Elements that have been restored -/

/-- A property map after it was restored: the keys in order, and what is not finite left out. -/
structure Properties.Restored (m m' : Properties) : Prop where
  sorted : m'.keys.Pairwise (· ≤ ·)
  get? : ∀ k, m'.get? k = (m.get? k).map Scalar.toStored

/-- A node after it was restored. -/
structure Node.Restored (n n' : Node) : Prop where
  id : n'.id = n.id
  type : n'.type = n.type
  properties : n.properties.Restored n'.properties
  labels : n'.labels = n.labels
  createdAt : n'.createdAt = n.createdAt
  updatedAt : n'.updatedAt = n.updatedAt

/-- A relationship after it was restored. -/
structure Relationship.Restored (r r' : Relationship) : Prop where
  id : r'.id = r.id
  type : r'.type = r.type
  source : r'.source = r.source
  target : r'.target = r.target
  properties : r.properties.Restored r'.properties
  weight : r'.weight = r.weight
  createdAt : r'.createdAt = r.createdAt
  updatedAt : r'.updatedAt = r.updatedAt

theorem Properties.restored_stored (m : Properties) : m.Restored m.stored where
  sorted := OrderedMap.keys_sorted _
  get? := by
    intro k
    rw [stored, OrderedMap.get?_sorted, OrderedMap.get?_map]

theorem Node.restored_stored (n : Node) : n.Restored n.stored :=
  ⟨rfl, rfl, n.properties.restored_stored, rfl, rfl, rfl⟩

theorem Relationship.restored_stored (r : Relationship) : r.Restored r.stored :=
  ⟨rfl, rfl, rfl, rfl, r.properties.restored_stored, rfl, rfl, rfl⟩

/-! ## Blobs -/

namespace Archive

theorem fromUTF8?_toUTF8 (t : String) : String.fromUTF8? t.toUTF8 = some t := by
  unfold String.fromUTF8?
  exact dif_pos t.isValidUTF8

/-- A valid snapshot that can be written is read back from its bytes. -/
theorem decode_bytes {g : Snapshot} (h : g.Valid) (hw : ∀ r ∈ g.relationships, r.Weighable)
    (hl : g.Legible) (hint : g.isWritable = true) : decode (bytes g) = .ok g.stored := by
  have hutf8 : String.fromUTF8? (bytes g) = some (text g) := fromUTF8?_toUTF8 (text g)
  have hread : Json.read (text g) = .ok (Json.sortKeys g.toDocument) :=
    Json.read_write (hl.readable 976) ((Json.isWritable_sortKeys g.toDocument).trans hint)
  unfold decode
  rw [hutf8]
  refine bind_eq_ok_iff.mpr ⟨text g, rfl, bind_eq_ok_iff.mpr ⟨_, mapError_eq_ok_iff.mpr hread, ?_⟩⟩
  exact mapError_eq_ok_iff.mpr (h.ofDocument_sortKeys hw hl)

/-- What has just been put into an archive is loaded from it. -/
theorem load_put (a : Archive) {g : Snapshot} (h : g.Valid)
    (hw : ∀ r ∈ g.relationships, r.Weighable) (hl : g.Legible) (hint : g.isWritable = true) :
    (a.put (blobId g) (bytes g)).load (blobId g) = .ok g.stored := by
  unfold load put
  dsimp only
  rw [OrderedMap.get?_insert, if_pos rfl]
  exact mapError_eq_ok_iff.mpr (decode_bytes h hw hl hint)

section

variable {g : Snapshot} (a : Archive) (clock : Clock)

/-- A snapshot that can be written is put under its id. -/
theorem store_of_writable (h : g.isWritable = true) : a.store g clock
    = (.ok { blob := blobId g, size := (bytes g).size, timestamp := .ofInstant clock.read.1 },
      a.put (blobId g) (bytes g), clock.read.2) :=
  if_pos h

/-- No other snapshot is stored, and nothing happens. -/
theorem store_of_not_writable (h : g.isWritable = false) :
    a.store g clock = (.error .longInteger, a, clock) :=
  if_neg (by rw [h]; exact Bool.false_ne_true)

end

/-- What has been read back has the id of what it was read from. -/
theorem blobId_stored (g : Snapshot) : blobId g.stored = blobId g := by
  unfold blobId bytes text
  rw [g.sortKeys_stored]

end Archive

/-- What has been read back can be written again. -/
theorem Snapshot.isWritable_stored (g : Snapshot) : g.stored.isWritable = g.isWritable := by
  unfold isWritable
  rw [← Json.isWritable_sortKeys, g.sortKeys_stored, Json.isWritable_sortKeys]

namespace Publication

variable (p : Publication) (g : Snapshot)

/-- The title of a publication has no part in whether it can be written. -/
theorem isWritable_snapshot : (p.snapshot g).isWritable = g.isWritable := by
  unfold Snapshot.isWritable Snapshot.toDocument snapshot
  cases g.name <;> cases g.description <;> rfl

end Publication

namespace Shelf

variable (s : Shelf) {g : Snapshot} (p : Publication) (supply : Supply)

/-- A graph that can be written is stored, and recorded with the blob it has. -/
theorem publish_of_writable (h : g.isWritable = true) :
    ∃ receipt record, (s.publish g p supply).1 = .ok (receipt, record)
      ∧ receipt.blob = Archive.blobId (p.snapshot g)
      ∧ (s.publish g p supply).2.1.archive
        = s.archive.put (Archive.blobId (p.snapshot g)) (Archive.bytes (p.snapshot g))
      ∧ ∃ supply', (s.publish g p supply).2.1.ledger
        = (s.ledger.record (p.draft g (Archive.blobId (p.snapshot g))) supply').2.1 := by
  unfold publish
  rw [Archive.store_of_writable _ _ ((p.isWritable_snapshot g).trans h)]
  exact ⟨_, _, rfl, rfl, rfl, _, rfl⟩

/-- No other graph is published, and the shelf stays as it is. -/
theorem publish_of_not_writable (h : g.isWritable = false) :
    s.publish g p supply = (.error .longInteger, s, supply) := by
  unfold publish
  rw [Archive.store_of_not_writable _ _ ((p.isWritable_snapshot g).trans h)]

end Shelf

/-! ## Self-loops -/

namespace Store

theorem admitRelationship_selfLoop {taken known : String → Bool} {r : Relationship}
    (h : admitRelationship true taken known r = .ok ()) (hloop : r.source = r.target) :
    admitRelationship false taken known r = .error (.selfLoop r.source) := by
  obtain ⟨hnew, hsource, htarget, -⟩ := admitRelationship_eq_ok_iff.mp h
  have hself : r.isSelfLoop = true := beq_iff_eq.mpr hloop
  unfold admitRelationship
  rw [hnew, hsource, htarget, hself]
  rfl

/-- Where nothing is wrong but that there is a self-loop, this is what is told. -/
theorem admitRelationships_selfLoop {taken known : String → Bool} {seen : List String}
    {rs : List Relationship} (h : admitRelationships true taken known seen rs = .ok ())
    {r : Relationship} (hr : r ∈ rs) (hloop : r.source = r.target) :
    ∃ id, admitRelationships false taken known seen rs = .error (.selfLoop id) := by
  induction rs generalizing seen with
  | nil => exact absurd hr List.not_mem_nil
  | cons q qs ih =>
    obtain ⟨⟨⟩, hq, hqs⟩ := bind_eq_ok_iff.mp h
    obtain ⟨hnew, hsource, htarget, -⟩ := admitRelationship_eq_ok_iff.mp hq
    unfold admitRelationships
    by_cases hself : q.source = q.target
    · -- the first self-loop ends the check
      rw [admitRelationship_selfLoop hq hself]
      exact ⟨q.source, rfl⟩
    · have hq' : admitRelationship false (fun id => taken id || seen.contains id) known q
          = .ok () :=
        admitRelationship_eq_ok_iff.mpr ⟨hnew, hsource, htarget, fun h => absurd h hself⟩
      have hr' : r ∈ qs := (List.mem_cons.mp hr).resolve_left fun heq => hself (heq ▸ hloop)
      rw [hq']
      exact ih hqs hr'

/-- The same store, were self-loops allowed. -/
def tolerant (s : Store) : Store := { s with policy := { s.policy with allowSelfLoops := true } }

theorem checkSnapshot_selfLoop {s : Store} {g : Snapshot} (h : s.tolerant.clear.Admits g)
    (hno : s.policy.allowSelfLoops = false) {r : Relationship} (hr : r ∈ g.relationships)
    (hloop : r.source = r.target) : ∃ id, s.checkSnapshot g true = .error (.selfLoop id) := by
  have hok : s.tolerant.checkSnapshot g true = .ok () := checkSnapshot_eq_ok_iff.mpr h
  obtain ⟨ids, hids, hrels⟩ := bind_eq_ok_iff.mp hok
  obtain ⟨id, hid⟩ := admitRelationships_selfLoop hrels hr hloop
  refine ⟨id, ?_⟩
  have hids' : admitNodes s.clear.hasNode [] g.nodes = .ok ids := hids
  unfold checkSnapshot
  rw [hno]
  dsimp only [if_true]
  rw [if_pos rfl, hids']
  exact hid

end Store

/-! ## Snapshots of stores -/

namespace Store

variable {A B : Store}

/-- Whether there is a relationship that joins a node to itself. -/
def HasSelfLoop (s : Store) : Prop := ∃ r ∈ s.relationships.values, r.source = r.target

theorem map_id_stored (ns : List Node) : (ns.map Node.stored).map Node.id = ns.map Node.id := by
  rw [List.map_map]
  rfl

theorem map_relationshipId_stored (rs : List Relationship) :
    (rs.map Relationship.stored).map Relationship.id = rs.map Relationship.id := by
  rw [List.map_map]
  rfl

/-- What a sound store holds may take the place of all that another holds. -/
theorem Sound.admits_stored (hA : A.Sound) (hloops : A.HasSelfLoop → B.policy.allowSelfLoops = true)
    (p : Publication) : B.clear.Admits (p.snapshot A.snapshot).stored := by
  have hends : ∀ id ∈ A.nodes.keys,
      id ∈ B.clear.nodes.keys ∨ id ∈ (p.snapshot A.snapshot).stored.nodes.map Node.id := by
    intro id hid
    refine Or.inr ?_
    show id ∈ (A.nodes.values.map Node.stored).map Node.id
    rw [map_id_stored, hA.nodeIds_eq]
    exact hid
  have hrel : ∀ r ∈ (p.snapshot A.snapshot).stored.relationships,
      ∃ e ∈ A.relationships.entries, e.2.stored = r := by
    intro r hr
    obtain ⟨q, hq, rfl⟩ := List.mem_map.mp hr
    obtain ⟨k, hk⟩ := OrderedMap.mem_values.mp hq
    exact ⟨(k, q), hk, rfl⟩
  constructor
  case nodes_new => exact fun _ _ h => absurd h List.not_mem_nil
  case nodes_nodup =>
    show ((A.nodes.values.map Node.stored).map Node.id).Nodup
    rw [map_id_stored, hA.nodeIds_eq]
    exact A.nodes.nodup_keys
  case relationships_new => exact fun _ _ h => absurd h List.not_mem_nil
  case relationships_nodup =>
    show ((A.relationships.values.map Relationship.stored).map Relationship.id).Nodup
    rw [map_relationshipId_stored, hA.relationshipIds_eq]
    exact A.relationships.nodup_keys
  case source =>
    intro r hr
    obtain ⟨e, he, rfl⟩ := hrel r hr
    exact hends _ (hA.source_live e he)
  case target =>
    intro r hr
    obtain ⟨e, he, rfl⟩ := hrel r hr
    exact hends _ (hA.target_live e he)
  case loops =>
    intro r hr hloop
    obtain ⟨e, he, rfl⟩ := hrel r hr
    exact hloops ⟨e.2, OrderedMap.mem_values.mpr ⟨e.1, he⟩, hloop⟩

/-! ## Publishing and restoring -/

theorem replaceWith_of_admits {g : Snapshot} (h : B.clear.Admits g) : B.replaceWith g
    = (.ok (g.nodes.length, g.relationships.length), B.clear.takeSnapshot g) := by
  rcases replaceWith_cases B g with ⟨e, he, -⟩ | ⟨-, heq⟩
  · have hok : B.checkSnapshot g true = .ok () := checkSnapshot_eq_ok_iff.mpr h
    exact absurd (he.symm.trans hok) (by simp)
  · exact heq

/-- A store with the elements of another in their order, after these were restored. -/
structure Restored (s s' : Store) : Prop where
  nodes : List.Forall₂ (fun e e' => e'.1 = e.1 ∧ e.2.Restored e'.2) s.nodes.entries s'.nodes.entries
  relationships : List.Forall₂ (fun e e' => e'.1 = e.1 ∧ e.2.Restored e'.2)
    s.relationships.entries s'.relationships.entries

theorem Sound.restored_takeSnapshot (hA : A.Sound) {p : Publication}
    (h : B.clear.Admits (p.snapshot A.snapshot).stored) :
    A.Restored (B.clear.takeSnapshot (p.snapshot A.snapshot).stored) where
  nodes := by
    have hentries : (B.clear.takeSnapshot (p.snapshot A.snapshot).stored).nodes.entries
        = A.nodes.entries.map fun e => (e.2.id, e.2.stored) := by
      rw [entries_nodes_takeSnapshot h]
      show ((A.nodes.entries.map Prod.snd).map Node.stored).map _ = _
      rw [List.map_map, List.map_map]
      rfl
    rw [hentries, List.forall₂_map_right_iff, List.forall₂_same]
    exact fun e he => ⟨(hA.nodes_keyed e he).symm, e.2.restored_stored⟩
  relationships := by
    have hentries : (B.clear.takeSnapshot (p.snapshot A.snapshot).stored).relationships.entries
        = A.relationships.entries.map fun e => (e.2.id, e.2.stored) := by
      rw [entries_relationships_takeSnapshot h]
      show ((A.relationships.entries.map Prod.snd).map Relationship.stored).map _ = _
      rw [List.map_map, List.map_map]
      rfl
    rw [hentries, List.forall₂_map_right_iff, List.forall₂_same]
    exact fun e he => ⟨(hA.relationships_keyed e he).symm, e.2.restored_stored⟩

/-- The elements of an emptied store that took a snapshot are those of the snapshot. -/
theorem snapshot_takeSnapshot_clear {g : Snapshot} (h : B.clear.Admits g) :
    (B.clear.takeSnapshot g).snapshot = { g with name := none, description := none } := by
  have hnodes : (B.clear.takeSnapshot g).nodes.values = g.nodes := by
    unfold OrderedMap.values
    rw [entries_nodes_takeSnapshot h]
    show List.map Prod.snd (List.map _ _) = _
    rw [List.map_map]
    exact List.map_id _
  have hrels : (B.clear.takeSnapshot g).relationships.values = g.relationships := by
    unfold OrderedMap.values
    rw [entries_relationships_takeSnapshot h]
    show List.map Prod.snd (List.map _ _) = _
    rw [List.map_map]
    exact List.map_id _
  unfold snapshot
  rw [hnodes, hrels]

theorem snapshot_weighable (hA : Reachable A) : ∀ r ∈ A.snapshot.relationships, r.Weighable := by
  intro r hr
  obtain ⟨k, hk⟩ := OrderedMap.mem_values.mp hr
  exact forall_relationships Relationship.guaranteed_weighable hA (k, r) hk

/-- What is published of a reachable store is a valid snapshot. -/
theorem published_valid (hA : Reachable A) (p : Publication) : (p.snapshot A.snapshot).Valid := by
  have hvalid := (sound_of_reachable hA).snapshot_valid
  exact ⟨hvalid.nodes, hvalid.relationships⟩

/-- What is published of a reachable store is loaded as it is read back. -/
theorem load_publish (hA : Reachable A) (hl : A.snapshot.Legible)
    (hint : A.snapshot.isWritable = true) (shelf : Shelf) (p : Publication) (supply : Supply) :
    ∃ receipt record, (shelf.publish A.snapshot p supply).1 = .ok (receipt, record)
      ∧ receipt.blob = Archive.blobId (p.snapshot A.snapshot)
      ∧ (shelf.publish A.snapshot p supply).2.1.archive.load receipt.blob
        = .ok (p.snapshot A.snapshot).stored := by
  obtain ⟨receipt, record, hok, hblob, harchive, -⟩ :=
    shelf.publish_of_writable p supply hint
  refine ⟨receipt, record, hok, hblob, ?_⟩
  rw [harchive, hblob]
  exact shelf.archive.load_put (published_valid hA p) (snapshot_weighable hA)
    ⟨hl.nodes, hl.relationships⟩ ((p.isWritable_snapshot A.snapshot).trans hint)

theorem restore_of_load {a : Archive} {blob : String} {g : Snapshot} (h : a.load blob = .ok g) :
    B.restore a blob = ((B.replaceWith g).1.mapError .graph, (B.replaceWith g).2) := by
  unfold restore
  rw [h]

/-- A store that has taken a stored snapshot publishes it again under the same title. -/
theorem snapshot_takeSnapshot {g : Snapshot} {p p' : Publication}
    (h : B.clear.Admits (p.snapshot g).stored) (hname : p'.name = p.name)
    (hdesc : p'.description = p.description) :
    p'.snapshot (B.clear.takeSnapshot (p.snapshot g).stored).snapshot
      = (p.snapshot g).stored := by
  rw [snapshot_takeSnapshot_clear h]
  unfold Publication.snapshot
  rw [hname, hdesc]
  rfl

/--
**What has been published can be restored.** The graph of a reachable store, as far as its integers
can be written, is published; restored into any store that puts up with its self-loops, it is there
as it was, but for the order of the keys of property maps and the floats that are not finite, and
published from there it has the same blob. A store that does not put up with its self-loops refuses
it as a violated constraint.
-/
theorem restore_publish (hA : Reachable A) (hl : A.snapshot.Legible)
    (hint : A.snapshot.isWritable = true) (B : Store) (shelf : Shelf) (p : Publication)
    (supply : Supply) :
    let published := shelf.publish A.snapshot p supply
    ∃ receipt record, published.1 = .ok (receipt, record) ∧
    let restored := B.restore published.2.1.archive receipt.blob
    (B.policy.allowSelfLoops = true ∨ ¬ A.HasSelfLoop →
      restored.1 = .ok (A.nodes.size, A.relationships.size) ∧ A.Restored restored.2
        ∧ ∀ (shelf' : Shelf) (p' : Publication) (supply' : Supply), p'.name = p.name →
          p'.description = p.description → ∃ receipt' record',
            (shelf'.publish restored.2.snapshot p' supply').1 = .ok (receipt', record')
              ∧ receipt'.blob = receipt.blob)
    ∧ (B.policy.allowSelfLoops = false ∧ A.HasSelfLoop →
      ∃ e, restored = (.error (.graph e), B) ∧ e.report.kind = .constraint) := by
  have hsound := sound_of_reachable hA
  intro published
  obtain ⟨receipt, record, hok, hblob, hloaded⟩ := load_publish hA hl hint shelf p supply
  refine ⟨receipt, record, hok, ?_⟩
  intro restored
  have hload : restored = _ := restore_of_load hloaded
  constructor
  · -- the snapshot of a sound store fits into any store that is emptied first
    intro hloops
    have hadm : B.clear.Admits (p.snapshot A.snapshot).stored :=
      hsound.admits_stored (fun h => hloops.resolve_right (not_not_intro h)) p
    rw [hload, replaceWith_of_admits hadm]
    refine ⟨?_, hsound.restored_takeSnapshot hadm, fun shelf' p' supply' hname hdesc => ?_⟩
    · show Except.ok ((A.nodes.values.map Node.stored).length,
        (A.relationships.values.map Relationship.stored).length) = _
      rw [List.length_map, List.length_map]
      unfold OrderedMap.values OrderedMap.size
      rw [List.length_map, List.length_map]
    · have hint' : (B.clear.takeSnapshot (p.snapshot A.snapshot).stored).snapshot.isWritable
          = true := by
        rw [← p'.isWritable_snapshot, snapshot_takeSnapshot hadm hname hdesc,
          Snapshot.isWritable_stored, p.isWritable_snapshot, hint]
      obtain ⟨receipt', record', hok', hblob', -⟩ :=
        shelf'.publish_of_writable p' supply' hint'
      refine ⟨receipt', record', hok', ?_⟩
      rw [hblob', snapshot_takeSnapshot hadm hname hdesc, Archive.blobId_stored, hblob]
  · -- were self-loops allowed it would be taken, so a self-loop is all that is told of
    rintro ⟨hno, r, hr, hloop⟩
    have hadm : B.tolerant.clear.Admits (p.snapshot A.snapshot).stored :=
      hsound.admits_stored (fun _ => rfl) p
    obtain ⟨id, hid⟩ := checkSnapshot_selfLoop hadm hno
      (List.mem_map.mpr ⟨r, hr, rfl⟩ : r.stored ∈ _) hloop
    refine ⟨.selfLoop id, ?_, rfl⟩
    rw [hload]
    unfold replaceWith
    rw [hid]
    rfl

end Store

/-! ## A case -/

theorem Json.readsBack_half : Json.ReadsBack 0.5 := by
  have hwritten : Json.write (.float 0.5) = "0.5" := by decide +kernel
  unfold Json.ReadsBack
  rw [hwritten]
  rfl

namespace Store

/-- A store with keys that are not in order, a float that is not finite and a self-loop. -/
def weighed : Store :=
  ((Store.empty ⟨true, true⟩).calls ⟨⟨[], fun _ => "", 0⟩, .still 0⟩
    [.createNode ⟨.text "A", [("size", .float Decimal.infinity), ("depth", .float 0.5)], [],
        some (.text "a")⟩,
      .createRelationship ⟨.text "T", "a", "a", [], .float 0.5, some (.text "l")⟩]).1

theorem reachable_weighed : Reachable weighed :=
  (Reachable.empty ⟨true, true⟩).calls _ (by simp [Call.imported?])

theorem legible_weighed : weighed.snapshot.Legible where
  nodes := by
    have hnodes : ∀ n ∈ weighed.snapshot.nodes,
        n.createdAt = .ofInstant 0 ∧ n.updatedAt = .ofInstant 0
          ∧ ∀ v ∈ n.properties.values, v = .float Decimal.infinity ∨ v = .float 0.5 := by
      decide +kernel
    intro n hn
    obtain ⟨hcreated, hupdated, hvalues⟩ := hnodes n hn
    refine ⟨fun x hx hfin => ?_, by rw [hcreated]; rfl, by rw [hupdated]; rfl⟩
    rcases hvalues _ hx with h | h
    · rw [Scalar.float.inj h] at hfin
      exact absurd hfin (by decide +kernel)
    · rw [Scalar.float.inj h]
      exact Json.readsBack_half
  relationships := by
    have hrels : ∀ r ∈ weighed.snapshot.relationships,
        r.createdAt = .ofInstant 0 ∧ r.updatedAt = .ofInstant 0 ∧ r.properties.values = []
          ∧ r.weight = some 0.5 := by
      decide +kernel
    intro r hr
    obtain ⟨hcreated, hupdated, hvalues, hweight⟩ := hrels r hr
    refine ⟨fun x hx => ?_, fun x hx => ?_, by rw [hcreated]; rfl, by rw [hupdated]; rfl⟩
    · exact absurd (hvalues ▸ hx) List.not_mem_nil
    · rw [hweight] at hx
      rw [← Option.some.inj hx]
      exact Json.readsBack_half

/-- It is restored where self-loops are allowed, in place of what was there, and nowhere else. -/
theorem restore_publish_weighed :
    let published := Shelf.empty.publish weighed.snapshot ⟨"n", "d", false, []⟩
      ⟨⟨[], fun _ => "", 0⟩, .still 0⟩
    let archive := published.2.1.archive
    weighed.HasSelfLoop ∧ ∃ receipt record, published.1 = .ok (receipt, record)
      ∧ ((sample ⟨true, true⟩).restore archive receipt.blob).1 = .ok (1, 1)
      ∧ weighed.Restored ((sample ⟨true, true⟩).restore archive receipt.blob).2
      ∧ ∃ e, (sample ⟨true, false⟩).restore archive receipt.blob
        = (.error (.graph e), sample ⟨true, false⟩) ∧ e.report.kind = .constraint := by
  intro published archive
  have hloop : weighed.HasSelfLoop := by
    unfold HasSelfLoop
    decide +kernel
  have hsize : weighed.nodes.size = 1 ∧ weighed.relationships.size = 1 := by decide +kernel
  have hwritable : weighed.snapshot.isWritable = true := by decide +kernel
  obtain ⟨receipt, record, hok, htaken, -⟩ := restore_publish reachable_weighed legible_weighed
    hwritable (sample ⟨true, true⟩) Shelf.empty ⟨"n", "d", false, []⟩
    ⟨⟨[], fun _ => "", 0⟩, .still 0⟩
  obtain ⟨receipt', record', hok', -, hrefused⟩ := restore_publish reachable_weighed
    legible_weighed hwritable (sample ⟨true, false⟩) Shelf.empty ⟨"n", "d", false, []⟩
    ⟨⟨[], fun _ => "", 0⟩, .still 0⟩
  obtain ⟨rfl, -⟩ := Prod.mk.inj (Except.ok.inj (hok.symm.trans hok'))
  have htaken := htaken (Or.inl rfl)
  rw [hsize.1, hsize.2] at htaken
  exact ⟨hloop, receipt, record, hok, htaken.1, htaken.2.1, hrefused ⟨rfl, hloop⟩⟩

end Store

end PropertyGraph
