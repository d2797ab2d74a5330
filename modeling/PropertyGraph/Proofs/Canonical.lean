import PropertyGraph.Proofs.Loading
import PropertyGraph.Proofs.Unambiguous

/-!
# Snapshots with the same content

Two snapshots have the same blob exactly if they have the same content: the same name, description
and elements in the same order, where a property map counts as a map, a float that is not finite
counts as nothing, and a date-time counts as its text. So an archive keeps every content once:
`store_canonical`.

Sorting the keys takes the order of property maps out of the document, and the text determines the
document. What is left open is whether different floats have different numerals and different bytes
different digests; both are asked only of the snapshots at hand. Zero and negative zero are two
floats, and their numerals differ.
-/

namespace PropertyGraph

open Json

/-! ## Content -/

/-- Property maps with the same keys and values, as far as these are kept. -/
def Properties.SameContent (m m' : Properties) : Prop :=
  ∀ k, (m.get? k).map Scalar.toStored = (m'.get? k).map Scalar.toStored

/-- Nodes that differ in nothing that is kept. -/
structure Node.SameContent (n n' : Node) : Prop where
  id : n.id = n'.id
  type : n.type = n'.type
  properties : n.properties.SameContent n'.properties
  labels : n.labels = n'.labels
  createdAt : n.createdAt.written = n'.createdAt.written
  updatedAt : n.updatedAt.written = n'.updatedAt.written

/-- Relationships that differ in nothing that is kept. -/
structure Relationship.SameContent (r r' : Relationship) : Prop where
  id : r.id = r'.id
  type : r.type = r'.type
  source : r.source = r'.source
  target : r.target = r'.target
  properties : r.properties.SameContent r'.properties
  weight : r.weight = r'.weight
  createdAt : r.createdAt.written = r'.createdAt.written
  updatedAt : r.updatedAt.written = r'.updatedAt.written

/-- Snapshots that differ in nothing that is kept: element by element, in their order. -/
structure Snapshot.SameContent (g g' : Snapshot) : Prop where
  name : g.name = g'.name
  description : g.description = g'.description
  nodes : List.Forall₂ Node.SameContent g.nodes g'.nodes
  relationships : List.Forall₂ Relationship.SameContent g.relationships g'.relationships

/-! ## One document for one content -/

theorem Properties.stored_eq_iff {m m' : Properties} : m.stored = m'.stored ↔ m.SameContent m' := by
  have hget : ∀ m : Properties, ∀ k, m.stored.get? k = (m.get? k).map Scalar.toStored :=
    fun m => m.restored_stored.get?
  constructor
  · intro h k
    rw [← hget, ← hget, h]
  · intro h
    exact OrderedMap.eq_of_sorted m.restored_stored.sorted m'.restored_stored.sorted
      fun k => by rw [hget, hget, h k]

theorem Properties.ofProperties_inj {m m' : Properties}
    (h : Document.ofProperties m = .ofProperties m') : m = m' := by
  have hpair : Function.Injective fun e : String × Scalar => (e.1, Document.scalar e.2) := by
    intro d e heq
    obtain ⟨hk, hv⟩ := Prod.mk.inj heq
    exact Prod.ext hk (Document.scalar.inj hv)
  ext1
  exact hpair.list_map (Document.map.inj h)

/-- Sorted maps that are equal have equal fields. -/
theorem lookup_eq_of_mergeSort {α : Type} {es es' : List (String × α)}
    (hnd : (es.map Prod.fst).Nodup) (hnd' : (es'.map Prod.fst).Nodup)
    (h : es.mergeSort keyLe = es'.mergeSort keyLe) (k : String) : es.lookup k = es'.lookup k := by
  rw [← lookup_mergeSort hnd, h, lookup_mergeSort hnd']

theorem text_inj {s t : String} (h : some (Document.text s) = some (.text t)) : s = t :=
  Scalar.text.inj (Document.scalar.inj (Option.some.inj h))

/-- The documents of nodes are equal, their keys sorted, for equal content and no other. -/
theorem Node.sortKeys_eq_iff {n n' : Node} :
    sortKeys n.toDocument = sortKeys n'.toDocument ↔ n.SameContent n' := by
  rw [sortKeys_toDocument, sortKeys_toDocument]
  constructor
  · intro h
    have hfield := lookup_eq_of_mergeSort n.nodup_storedEntries n'.nodup_storedEntries
      (Document.map.inj h)
    have hlabels : n.labels.map Document.text = n'.labels.map .text :=
      Document.list.inj (Option.some.inj (hfield "labels"))
    refine ⟨text_inj (hfield "id"), text_inj (hfield "type"), ?_, ?_,
      text_inj (hfield "createdAt"), text_inj (hfield "updatedAt")⟩
    · exact Properties.stored_eq_iff.mp
        (Properties.ofProperties_inj (Option.some.inj (hfield "properties")))
    · exact Function.Injective.list_map (fun s t hst => text_inj (congrArg some hst)) hlabels
  · intro h
    unfold storedEntries
    rw [h.id, h.type, Properties.stored_eq_iff.mpr h.properties, h.labels, h.createdAt,
      h.updatedAt]

/-- The documents of relationships are equal for equal content and no other. -/
theorem Relationship.sortKeys_eq_iff {r r' : Relationship} :
    sortKeys r.toDocument = sortKeys r'.toDocument ↔ r.SameContent r' := by
  rw [sortKeys_toDocument, sortKeys_toDocument]
  constructor
  · intro h
    have hfield := lookup_eq_of_mergeSort r.nodup_storedEntries r'.nodup_storedEntries
      (Document.map.inj h)
    have hweight : r.weightDocument = r'.weightDocument := Option.some.inj (hfield "weight")
    refine ⟨text_inj (hfield "id"), text_inj (hfield "type"), text_inj (hfield "sourceId"),
      text_inj (hfield "targetId"), ?_, ?_, text_inj (hfield "createdAt"),
      text_inj (hfield "updatedAt")⟩
    · exact Properties.stored_eq_iff.mp
        (Properties.ofProperties_inj (Option.some.inj (hfield "properties")))
    · -- a weight is read from its document
      have hread := r.asFloat?_weightDocument
      rw [hweight, r'.asFloat?_weightDocument] at hread
      exact (Checked.accepted.inj hread).symm
  · intro h
    unfold storedEntries weightDocument
    rw [h.id, h.type, h.source, h.target, Properties.stored_eq_iff.mpr h.properties, h.weight,
      h.createdAt, h.updatedAt]

theorem map_eq_map_iff_forall₂ {α β : Type} {f : α → β} {as bs : List α} :
    as.map f = bs.map f ↔ List.Forall₂ (fun a b => f a = f b) as bs := by
  rw [← List.forall₂_eq_eq_eq, List.forall₂_map_left_iff, List.forall₂_map_right_iff]

/-- **The documents of snapshots are equal**, their keys sorted, for equal content and no other. -/
theorem Snapshot.sortKeys_eq_iff {g g' : Snapshot} :
    sortKeys g.toDocument = sortKeys g'.toDocument ↔ g.SameContent g' := by
  have hnodes : g.nodes.map (fun n => sortKeys n.toDocument)
      = g'.nodes.map (fun n => sortKeys n.toDocument)
      ↔ List.Forall₂ Node.SameContent g.nodes g'.nodes := by
    rw [map_eq_map_iff_forall₂]
    simp only [Node.sortKeys_eq_iff]
  have hrels : g.relationships.map (fun r => sortKeys r.toDocument)
      = g'.relationships.map (fun r => sortKeys r.toDocument)
      ↔ List.Forall₂ Relationship.SameContent g.relationships g'.relationships := by
    rw [map_eq_map_iff_forall₂]
    simp only [Relationship.sortKeys_eq_iff]
  -- an absent text has a document that no text has
  have htext : ∀ s t : Option String, Document.ofText? s = .ofText? t → s = t := by
    intro s t h
    have hread : ∀ s : Option String, (Document.ofText? s).text? = s := by
      intro s
      cases s <;> rfl
    rw [← hread s, h, hread]
  rw [sortKeys_toDocument, sortKeys_toDocument]
  constructor
  · intro h
    have hfield := lookup_eq_of_mergeSort g.nodup_storedEntries g'.nodup_storedEntries
      (Document.map.inj h)
    exact ⟨htext _ _ (Option.some.inj (hfield "name")),
      htext _ _ (Option.some.inj (hfield "description")),
      hnodes.mp (Document.list.inj (Option.some.inj (hfield "nodes"))),
      hrels.mp (Document.list.inj (Option.some.inj (hfield "relationships")))⟩
  · intro h
    unfold storedEntries
    rw [h.name, h.description, hnodes.mpr h.nodes, hrels.mpr h.relationships]

/-! ## Floats that are written -/

/-- The floats of a property map are certain ones, as far as they are kept. -/
def Properties.FloatsIn (F : Float → Prop) (m : Properties) : Prop :=
  ∀ x, .float x ∈ m.values → Decimal.isFinite x = true → F x

/-- The floats that a snapshot is written with are certain ones. -/
structure Snapshot.FloatsIn (F : Float → Prop) (g : Snapshot) : Prop where
  nodes : ∀ n ∈ g.nodes, n.properties.FloatsIn F
  relationships : ∀ r ∈ g.relationships, r.properties.FloatsIn F
  weights : ∀ r ∈ g.relationships, ∀ x, r.weight = some x → F x

section

variable {F : Float → Prop}

theorem floatsIn_text (t : String) : Json.FloatsIn F (.text t) := .scalar (by simp)

theorem Properties.FloatsIn.document {m : Properties} (h : m.FloatsIn F) :
    Json.FloatsIn F (.ofProperties m.stored) := by
  refine .map (forall_ofProperties_stored fun _ hv => .scalar fun x hx => ?_)
  obtain ⟨hmem, hfin⟩ := float_mem_values_stored (hx ▸ hv)
  exact h x hmem hfin

theorem Snapshot.FloatsIn.document {g : Snapshot} (h : g.FloatsIn F) :
    Json.FloatsIn F (sortKeys g.toDocument) := by
  rw [sortKeys_toDocument]
  refine .map (forall_storedEntries ?_ ?_ ?_)
  · refine .list fun d hd => ?_
    obtain ⟨n, hn, rfl⟩ := List.mem_map.mp hd
    rw [n.sortKeys_toDocument]
    refine .map (Node.forall_storedEntries floatsIn_text ?_ (h.nodes n hn).document)
    intro ts
    refine .list fun d hd => ?_
    obtain ⟨t, -, rfl⟩ := List.mem_map.mp hd
    exact floatsIn_text t
  · refine .list fun d hd => ?_
    obtain ⟨r, hr, rfl⟩ := List.mem_map.mp hd
    rw [r.sortKeys_toDocument]
    exact .map (Relationship.forall_storedEntries floatsIn_text (h.relationships r hr).document
      (Relationship.forall_weightDocument fun v hv => .scalar fun x hx =>
        h.weights r hr x (hv x hx)))
  · intro s
    cases s <;> exact .scalar (by simp)

end

namespace Archive

/-! ## Archives that were filled by storing -/

/-- The snapshots that storing one adds to those an archive has: the one, if it can be written. -/
def taken (g : Snapshot) : List Snapshot := if g.isWritable then [g] else []

theorem taken_of_writable {g : Snapshot} (h : g.isWritable = true) : taken g = [g] := if_pos h

theorem taken_of_not_writable {g : Snapshot} (h : g.isWritable = false) : taken g = [] :=
  if_neg (by rw [h]; exact Bool.false_ne_true)

/-- The archives in which snapshots have been stored in turn, whatever the clock read. -/
inductive Filled : List Snapshot → Archive → Prop where
  | empty : Filled [] empty
  | store {gs : List Snapshot} {a : Archive} (h : Filled gs a) (g : Snapshot) (clock : Clock) :
    Filled (gs ++ taken g) (a.store g clock).2.1

/-- Snapshots of which no two with different bytes share a digest. -/
def NoCollision (gs : List Snapshot) : Prop :=
  ∀ g ∈ gs, ∀ g' ∈ gs, blobId g = blobId g' → bytes g = bytes g'

theorem NoCollision.mono {gs gs' : List Snapshot} (h : NoCollision gs') (hsub : gs ⊆ gs') :
    NoCollision gs :=
  fun g hg g' hg' => h g (hsub hg) g' (hsub hg')

/-- It is enough to look at the digests of all bytes that there are. -/
theorem noCollision_of_bytes {gs : List Snapshot} {b b' : ByteArray}
    (h : ∀ g ∈ gs, bytes g = b ∨ bytes g = b') (hne : Digest.hex b ≠ Digest.hex b') :
    NoCollision gs := by
  intro g hg g' hg' hid
  unfold blobId at hid
  rcases h g hg with hb | hb
  · rcases h g' hg' with hb' | hb'
    · rw [hb, hb']
    · rw [hb, hb'] at hid
      exact absurd hid hne
  · rcases h g' hg' with hb' | hb'
    · rw [hb, hb'] at hid
      exact absurd hid.symm hne
    · rw [hb, hb']

section

variable {gs : List Snapshot} {a : Archive}

theorem archive_store {g : Snapshot} (hg : g.isWritable = true) (a : Archive) (clock : Clock) :
    (a.store g clock).2.1 = a.put (blobId g) (bytes g) := by
  rw [a.store_of_writable clock hg]

/-- What holds of the archives without snapshots, and after any that is put, holds of all. -/
@[elab_as_elim]
theorem Filled.induction {P : List Snapshot → Archive → Prop} (h : Filled gs a)
    (hempty : P [] .empty)
    (hput : ∀ gs a g, P gs a → g.isWritable = true → P (gs ++ [g]) (a.put (blobId g) (bytes g))) :
    P gs a := by
  induction h with
  | empty => exact hempty
  | @store gs a _ g clock ih =>
    cases hg : g.isWritable with
    | true =>
      rw [taken_of_writable hg, archive_store hg]
      exact hput gs a g ih hg
    | false =>
      rw [taken_of_not_writable hg, List.append_nil, a.store_of_not_writable clock hg]
      exact ih

/-- What was stored could be written. -/
theorem Filled.isWritable (h : Filled gs a) : ∀ g ∈ gs, g.isWritable = true := by
  refine h.induction (fun _ hg => absurd hg List.not_mem_nil) fun gs _ g ih hg => ?_
  intro e he
  rcases List.mem_append.mp he with he | he
  · exact ih e he
  · rwa [List.mem_singleton.mp he]

/-- An archive has the ids of what was stored, and no others. -/
theorem Filled.mem_keys (h : Filled gs a) {id : String} :
    id ∈ a.blobs.keys ↔ ∃ g ∈ gs, blobId g = id := by
  refine h.induction ?_ fun gs a g ih _ => ?_
  · constructor
    · exact fun hid => absurd hid List.not_mem_nil
    · rintro ⟨g, hg, -⟩
      exact absurd hg List.not_mem_nil
  · have hkeys : id ∈ (a.put (blobId g) (bytes g)).blobs.keys
        ↔ id = blobId g ∨ id ∈ a.blobs.keys := OrderedMap.mem_keys_insert
    rw [hkeys, ih]
    constructor
    · rintro (rfl | ⟨e, he, rfl⟩)
      · exact ⟨g, List.mem_append_right _ List.mem_cons_self, rfl⟩
      · exact ⟨e, List.mem_append_left _ he, rfl⟩
    · rintro ⟨e, he, rfl⟩
      rcases List.mem_append.mp he with he | he
      · exact Or.inr ⟨e, he, rfl⟩
      · exact Or.inl (congrArg blobId (List.mem_singleton.mp he))

/-- Without collisions every snapshot keeps its own bytes, whatever is stored after it. -/
theorem Filled.get? (h : Filled gs a) (hno : NoCollision gs) {g : Snapshot} (hg : g ∈ gs) :
    a.blobs.get? (blobId g) = some (bytes g) := by
  revert hno hg
  refine h.induction (fun _ hg => absurd hg List.not_mem_nil) fun gs a last ih _ hno hg => ?_
  have hget : (a.put (blobId last) (bytes last)).blobs.get? (blobId g)
      = if blobId g = blobId last then some (bytes last) else a.blobs.get? (blobId g) :=
    OrderedMap.get?_insert _ _ _ _
  rw [hget]
  -- a blob with the same id is put in its place only if it is the same blob
  by_cases hid : blobId g = blobId last
  · rw [if_pos hid, hno g hg last (List.mem_append_right _ List.mem_cons_self) hid]
  · have hg' : g ∈ gs := (List.mem_append.mp hg).resolve_right fun hlast =>
      hid (congrArg blobId (List.mem_singleton.mp hlast))
    rw [if_neg hid]
    exact ih (hno.mono (List.subset_append_left _ _)) hg'

/-- What was stored is loaded, as it is read back. -/
theorem Filled.load (h : Filled gs a) (hno : NoCollision gs) {g : Snapshot} (hg : g ∈ gs)
    (hvalid : g.Valid) (hw : ∀ r ∈ g.relationships, r.Weighable) (hl : g.Legible) :
    a.load (blobId g) = .ok g.stored := by
  unfold Archive.load
  rw [h.get? hno hg]
  exact mapError_eq_ok_iff.mpr (decode_bytes hvalid hw hl (h.isWritable g hg))

/-- Storing a snapshot leaves every blob that is there as it is. -/
theorem Filled.load_store_of_mem (h : Filled gs a) {g : Snapshot}
    (hno : NoCollision (gs ++ taken g)) (clock : Clock) {id : String} (hid : id ∈ a.blobs.keys) :
    (a.store g clock).2.1.load id = a.load id := by
  obtain ⟨e, he, rfl⟩ := h.mem_keys.mp hid
  have hbefore := h.get? (hno.mono (List.subset_append_left _ _)) he
  have hafter := (h.store g clock).get? hno (List.mem_append_left _ he)
  unfold Archive.load
  rw [hbefore, hafter]

theorem size_store {g : Snapshot} (hg : g.isWritable = true) (a : Archive) (clock : Clock) :
    (a.store g clock).2.1.size = if blobId g ∈ a.blobs.keys then a.size else a.size + 1 := by
  have hlength : ∀ b : Archive, b.size = b.blobs.keys.length := fun b => b.blobs.length_keys.symm
  have hkeys : (a.put (blobId g) (bytes g)).blobs.keys
      = if blobId g ∈ a.blobs.keys then a.blobs.keys else a.blobs.keys ++ [blobId g] :=
    OrderedMap.keys_insert _ _ _
  rw [archive_store hg, hlength, hlength, hkeys]
  split
  · rfl
  · rw [List.length_append, List.length_singleton]

end

/-! ## One blob for one content -/

theorem bytes_inj {g g' : Snapshot} (h : bytes g = bytes g') : text g = text g' :=
  String.toByteArray_inj.mp h

/-- Two snapshots have one id exactly if they have one content. -/
theorem blobId_eq_iff {F : Float → Prop} (hF : NumeralsDiffer F) {g g' : Snapshot}
    (hg : g.FloatsIn F) (hg' : g'.FloatsIn F) (hno : blobId g = blobId g' → bytes g = bytes g') :
    blobId g = blobId g' ↔ g.SameContent g' := by
  rw [← Snapshot.sortKeys_eq_iff]
  constructor
  · intro h
    exact write_inj hF hg.document hg'.document (bytes_inj (hno h))
  · intro h
    unfold blobId bytes text
    rw [h]

/--
**An archive keeps every content once.** Of snapshots that can be written, whose different floats
have different numerals and whose different bytes have different digests, two have the same blob in
whatever archives they are stored exactly if they have the same content. When some of them have been
stored and one more is, there are as many blobs as before if it has the content of one of these, and
one more if it has not; every blob that was there is loaded as before, and those of valid snapshots,
whose floats and date-times are read back, are loaded as these snapshots.
-/
theorem store_canonical {F : Float → Prop} (hF : NumeralsDiffer F) {gs : List Snapshot}
    (hint : ∀ g ∈ gs, g.isWritable = true) (hfloats : ∀ g ∈ gs, g.FloatsIn F)
    (hno : NoCollision gs) :
    (∀ g ∈ gs, ∀ g' ∈ gs, ∀ (a a' : Archive) (clock clock' : Clock), ∃ receipt receipt',
      (a.store g clock).1 = .ok receipt ∧ (a'.store g' clock').1 = .ok receipt'
        ∧ (receipt.blob = receipt'.blob ↔ g.SameContent g'))
    ∧ ∀ (earlier : List Snapshot) (a : Archive) (g : Snapshot) (clock : Clock),
      Filled earlier a → earlier ⊆ gs → g ∈ gs →
        ((∃ e ∈ earlier, e.SameContent g) → (a.store g clock).2.1.size = a.size)
        ∧ ((∀ e ∈ earlier, ¬ e.SameContent g) → (a.store g clock).2.1.size = a.size + 1)
        ∧ (∀ id ∈ a.blobs.keys, (a.store g clock).2.1.load id = a.load id)
        ∧ ∀ e ∈ earlier, e.Valid → (∀ r ∈ e.relationships, r.Weighable) → e.Legible →
          ∃ e', (a.store g clock).2.1.load (blobId e) = .ok e' ∧ e.Restored e' := by
  have hids : ∀ g ∈ gs, ∀ g' ∈ gs, blobId g = blobId g' ↔ g.SameContent g' :=
    fun g hg g' hg' => blobId_eq_iff hF (hfloats g hg) (hfloats g' hg') (hno g hg g' hg')
  constructor
  · -- the id of a blob depends neither on the archive nor on the clock
    intro g hg g' hg' a a' clock clock'
    rw [a.store_of_writable clock (hint g hg), a'.store_of_writable clock' (hint g' hg')]
    exact ⟨_, _, rfl, rfl, hids g hg g' hg'⟩
  intro earlier a g clock hfilled hsub hg
  have hall : earlier ++ taken g ⊆ gs := by
    rw [taken_of_writable (hint g hg)]
    exact List.append_subset.mpr ⟨hsub, List.cons_subset.mpr ⟨hg, List.nil_subset _⟩⟩
  have hstored : blobId g ∈ a.blobs.keys ↔ ∃ e ∈ earlier, e.SameContent g := by
    rw [hfilled.mem_keys]
    constructor
    · rintro ⟨e, he, hid⟩
      exact ⟨e, he, (hids e (hsub he) g hg).mp hid⟩
    · rintro ⟨e, he, hsame⟩
      exact ⟨e, he, (hids e (hsub he) g hg).mpr hsame⟩
  refine ⟨fun hsome => ?_, fun hnone => ?_, fun id hid => ?_, fun e he hvalid hw hl => ?_⟩
  · rw [size_store (hint g hg), if_pos (hstored.mpr hsome)]
  · have hnew : blobId g ∉ a.blobs.keys := by
      intro hkey
      obtain ⟨e, he, hsame⟩ := hstored.mp hkey
      exact hnone e he hsame
    rw [size_store (hint g hg), if_neg hnew]
  · exact hfilled.load_store_of_mem (hno.mono hall) clock hid
  · exact ⟨e.stored, (hfilled.store g clock).load (hno.mono hall)
      (List.mem_append_left _ he) hvalid hw hl, e.restored_stored⟩

/-! ## A case -/

/-- A graph of one node with the given properties. -/
def single (m : Properties) : Snapshot :=
  ⟨[⟨"a", "A", m, [], ⟨0, none⟩, ⟨0, none⟩⟩], [], none, none⟩

/-- The document of such a graph, its keys sorted. -/
def singleDocument (m : Properties) : Document :=
  .map [("description", .null), ("name", .null),
    ("nodes", .list [.map [("createdAt", .text (DateTime.written ⟨0, none⟩)), ("id", .text "a"),
      ("labels", .list []), ("properties", .ofProperties m), ("type", .text "A"),
      ("updatedAt", .text (DateTime.written ⟨0, none⟩))]]),
    ("relationships", .list [])]

theorem sortKeys_single {m m' : Properties}
    (hperm : (m.map Scalar.toStored).entries.Perm m'.entries)
    (hsorted : m'.keys.Pairwise (· ≤ ·)) :
    sortKeys (single m).toDocument = singleDocument m' := by
  have hstored : m.stored = m' := OrderedMap.sorted_eq_of_perm hperm hsorted
  rw [Snapshot.sortKeys_toDocument, ← hstored]
  simp [single, singleDocument, Snapshot.storedEntries, Node.sortKeys_toDocument,
    Node.storedEntries, List.mergeSort, keyLe, Document.ofText?]

theorem floatsIn_single {F : Float → Prop} {m : Properties} (h : m.FloatsIn F) :
    (single m).FloatsIn F where
  nodes := List.forall_mem_singleton.mpr h
  relationships _ hr := absurd hr List.not_mem_nil
  weights _ hr := absurd hr List.not_mem_nil

/-- An integer is not a float, and the order of keys and what is not kept make no difference. -/
theorem store_canonical_single :
    let first := single (.ofList [("n", .int 1), ("h", .float 0.5), ("x", .float Decimal.infinity)])
    let same := single (.ofList [("x", .null), ("n", .int 1), ("h", .float 0.5)])
    let other := single (.ofList [("x", .null), ("n", .float 1), ("h", .float 0.5)])
    let archive := (empty.store first (.still 0)).2.1
    NumeralsDiffer (fun x => x = 1 ∨ x = 0.5)
    ∧ (∀ g ∈ [first, same, other], g.isWritable = true)
    ∧ (∀ g ∈ [first, same, other], g.FloatsIn fun x => x = 1 ∨ x = 0.5)
    ∧ NoCollision [first, same, other]
    ∧ (∃ receipt receipt', (archive.store same (.still 0)).1 = .ok receipt
      ∧ (empty.store first (.still 0)).1 = .ok receipt' ∧ receipt.blob = receipt'.blob)
    ∧ (archive.store same (.still 0)).2.1.size = archive.size
    ∧ (∃ receipt receipt', (archive.store other (.still 0)).1 = .ok receipt
      ∧ (empty.store first (.still 0)).1 = .ok receipt' ∧ receipt.blob ≠ receipt'.blob)
    ∧ (archive.store other (.still 0)).2.1.size = archive.size + 1 := by
  intro first same other archive
  have hnumerals : NumeralsDiffer fun x => x = 1 ∨ x = 0.5 :=
    numeralsDiffer_pair (by decide +kernel)
  have hwritable : ∀ g ∈ [first, same, other], g.isWritable = true := by decide +kernel
  have hfloats : ∀ g ∈ [first, same, other], g.FloatsIn fun x => x = 1 ∨ x = 0.5 := by
    have hvalues : ∀ m : Properties, (∀ v ∈ m.values, v = .null ∨ v = .int 1 ∨ v = .float 1
        ∨ v = .float 0.5 ∨ v = .float Decimal.infinity) →
        m.FloatsIn fun x => x = 1 ∨ x = 0.5 := by
      intro m hall x hx hfin
      rcases hall _ hx with h | h | h | h | h
      · exact absurd h (by simp)
      · exact absurd h (by simp)
      · exact Or.inl (Scalar.float.inj h)
      · exact Or.inr (Scalar.float.inj h)
      · rw [Scalar.float.inj h] at hfin
        exact absurd hfin (by decide +kernel)
    simp only [List.forall_mem_cons, List.not_mem_nil, false_implies, implies_true, and_true]
    exact ⟨floatsIn_single (hvalues _ (by decide +kernel)),
      floatsIn_single (hvalues _ (by decide +kernel)),
      floatsIn_single (hvalues _ (by decide +kernel))⟩
  -- two documents are all that is written
  have hfirst : sortKeys first.toDocument = singleDocument
      (.ofList [("h", .float 0.5), ("n", .int 1), ("x", .null)]) :=
    sortKeys_single (by decide +kernel) (by decide +kernel)
  have hsame : sortKeys same.toDocument = sortKeys first.toDocument := by
    rw [hfirst]
    exact sortKeys_single (by decide +kernel) (by decide +kernel)
  have hother : sortKeys other.toDocument = singleDocument
      (.ofList [("h", .float 0.5), ("n", .float 1), ("x", .null)]) :=
    sortKeys_single (by decide +kernel) (by decide +kernel)
  have hbytes : bytes same = bytes first := by
    unfold bytes text
    rw [hsame]
  have hdigest : blobId first ≠ blobId other := by
    unfold blobId bytes text
    rw [hfirst, hother]
    decide +kernel
  have hno : NoCollision [first, same, other] := by
    refine noCollision_of_bytes (fun g hg => ?_) hdigest
    simp only [List.mem_cons, List.not_mem_nil, or_false] at hg
    rcases hg with rfl | rfl | rfl
    · exact Or.inl rfl
    · exact Or.inl hbytes
    · exact Or.inr rfl
  obtain ⟨hids, hstores⟩ := store_canonical hnumerals hwritable hfloats hno
  have hmem : ∀ g, g = first ∨ g = same ∨ g = other → g ∈ [first, same, other] := by simp
  have hsub : [first] ⊆ [first, same, other] :=
    List.cons_subset.mpr ⟨hmem _ (Or.inl rfl), List.nil_subset _⟩
  have hnotsame : ¬ first.SameContent other := fun h =>
    hdigest ((blobId_eq_iff hnumerals (hfloats first (hmem _ (Or.inl rfl)))
      (hfloats other (hmem _ (Or.inr (Or.inr rfl)))) fun hid => absurd hid hdigest).mpr h)
  have hfilled : Filled [first] archive := by
    have hstored := Filled.empty.store first (.still 0)
    rwa [taken_of_writable (hwritable first (hmem _ (Or.inl rfl))), List.nil_append] at hstored
  refine ⟨hnumerals, hwritable, hfloats, hno, ?_, ?_, ?_, ?_⟩
  · obtain ⟨receipt, receipt', h, h', hiff⟩ := hids same (hmem _ (Or.inr (Or.inl rfl))) first
      (hmem _ (Or.inl rfl)) archive empty (.still 0) (.still 0)
    exact ⟨receipt, receipt', h, h', hiff.mpr (Snapshot.sortKeys_eq_iff.mp hsame)⟩
  · exact (hstores [first] archive same (.still 0) hfilled hsub (hmem _ (Or.inr (Or.inl rfl)))).1
      ⟨first, List.mem_cons_self, Snapshot.sortKeys_eq_iff.mp hsame.symm⟩
  · obtain ⟨receipt, receipt', h, h', hiff⟩ := hids other (hmem _ (Or.inr (Or.inr rfl))) first
      (hmem _ (Or.inl rfl)) archive empty (.still 0) (.still 0)
    refine ⟨receipt, receipt', h, h', fun hblob => hnotsame ?_⟩
    exact Snapshot.sortKeys_eq_iff.mp (Snapshot.sortKeys_eq_iff.mpr (hiff.mp hblob)).symm
  · exact (hstores [first] archive other (.still 0) hfilled hsub
      (hmem _ (Or.inr (Or.inr rfl)))).2.1 (List.forall_mem_singleton.mpr hnotsame)

end Archive

end PropertyGraph
