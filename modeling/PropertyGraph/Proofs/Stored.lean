import PropertyGraph.Archive
import PropertyGraph.Proofs.Json
import PropertyGraph.Proofs.Recheck

/-!
# Snapshots that have been stored

What a snapshot is read back as is the snapshot itself, but for its property maps: their keys come
in order, and a float that is not finite has given way to nothing. Storing that once more changes
nothing, so both have one text.

Which float a numeral denotes and which date-time a text denotes is left open here: of the floats
and the date-times of a snapshot it is asked that they are read back.
-/

namespace PropertyGraph

open Json

/-! ## Look-ups in sorted maps -/

theorem keyLe_trans {α : Type} (a b c : String × α) (hab : keyLe a b = true)
    (hbc : keyLe b c = true) : keyLe a c = true := by
  unfold keyLe at *
  rw [decide_eq_true_eq] at *
  exact String.le_trans hab hbc

theorem keyLe_total {α : Type} (a b : String × α) : (keyLe a b || keyLe b a) = true := by
  unfold keyLe
  rw [Bool.or_eq_true, decide_eq_true_eq, decide_eq_true_eq]
  exact String.le_total _ _

theorem nodup_mergeSort {α : Type} {es : List (String × α)} (h : (es.map Prod.fst).Nodup) :
    ((es.mergeSort keyLe).map Prod.fst).Nodup :=
  (((es.mergeSort_perm keyLe).map Prod.fst).nodup_iff).mpr h

/-- The entries of a map in order of their keys. -/
def OrderedMap.sorted {α : Type} (m : OrderedMap String α) : OrderedMap String α :=
  ⟨m.entries.mergeSort keyLe, nodup_mergeSort m.nodup_keys⟩

theorem OrderedMap.get?_sorted {α : Type} (m : OrderedMap String α) (k : String) :
    m.sorted.get? k = m.get? k := by
  refine Option.ext fun v => ?_
  rw [get?_eq_some_iff, get?_eq_some_iff]
  exact (m.entries.mergeSort_perm keyLe).mem_iff

theorem lookup_mergeSort {α : Type} {es : List (String × α)} (h : (es.map Prod.fst).Nodup)
    (k : String) : (es.mergeSort keyLe).lookup k = es.lookup k :=
  OrderedMap.get?_sorted ⟨es, h⟩ k

theorem OrderedMap.keys_sorted {α : Type} (m : OrderedMap String α) :
    m.sorted.keys.Pairwise (· ≤ ·) := by
  have h : (m.entries.mergeSort keyLe).Pairwise fun a b => keyLe a b = true :=
    List.pairwise_mergeSort keyLe_trans keyLe_total m.entries
  exact List.pairwise_map.mpr (h.imp fun hab => of_decide_eq_true hab)

/-- Maps with keys in order are equal if all look-ups in them are. -/
theorem OrderedMap.eq_of_sorted {α : Type} {m m' : OrderedMap String α}
    (h : m.keys.Pairwise (· ≤ ·)) (h' : m'.keys.Pairwise (· ≤ ·))
    (hget : ∀ k, m.get? k = m'.get? k) : m = m' := by
  have hmem : ∀ e, e ∈ m.entries ↔ e ∈ m'.entries := by
    rintro ⟨k, v⟩
    rw [← get?_eq_some_iff, ← get?_eq_some_iff, hget]
  have hnodup : ∀ m : OrderedMap String α, m.entries.Nodup := fun m =>
    List.Pairwise.of_map Prod.fst (fun _ _ hne heq => hne (congrArg Prod.fst heq)) m.nodup_keys
  have hperm : m.entries.Perm m'.entries :=
    (List.perm_ext_iff_of_nodup (hnodup m) (hnodup m')).mpr hmem
  ext1
  refine hperm.eq_of_pairwise (fun d e hd he hde hed => ?_) (List.pairwise_map.mp h)
    (List.pairwise_map.mp h')
  -- one key comes neither before nor after the other, so it is one key with one entry
  exact eq_of_mem_entries hd ((hmem e).mpr he) (String.le_antisymm hde hed)

/-- Entries in order of their keys are those of the sorted map. -/
theorem OrderedMap.sorted_eq_of_perm {α : Type} {m m' : OrderedMap String α}
    (h : m.entries.Perm m'.entries) (h' : m'.keys.Pairwise (· ≤ ·)) : m.sorted = m' := by
  refine eq_of_sorted m.keys_sorted h' fun k => ?_
  rw [get?_sorted]
  ext v
  rw [get?_eq_some_iff, get?_eq_some_iff, h.mem_iff]

theorem OrderedMap.sorted_sorted {α : Type} (m : OrderedMap String α) :
    m.sorted.sorted = m.sorted := by
  ext1
  exact List.mergeSort_of_pairwise (List.pairwise_mergeSort keyLe_trans keyLe_total m.entries)

/-- Changing the values and ordering the keys do not get in each other's way. -/
theorem OrderedMap.sorted_map {α β : Type} (f : α → β) (m : OrderedMap String α) :
    (m.map f).sorted = m.sorted.map f := by
  ext1
  show (m.entries.map fun e => (e.1, f e.2)).mergeSort keyLe
    = (m.entries.mergeSort keyLe).map fun e => (e.1, f e.2)
  exact (List.map_mergeSort (f := fun e : String × α => (e.1, f e.2)) fun _ _ _ _ => rfl).symm

theorem OrderedMap.map_map {α β γ : Type} (f : α → β) (g : β → γ) (m : OrderedMap String α) :
    (m.map f).map g = m.map (g ∘ f) := by
  ext1
  show (m.entries.map _).map _ = m.entries.map _
  rw [List.map_map]
  rfl

theorem sortItems_eq (items : List Document) : sortItems items = items.map sortKeys := by
  induction items with
  | nil => rfl
  | cons d ds ih => rw [sortItems, ih, List.map_cons]

theorem sortEntries_eq (entries : List (String × Document)) :
    sortEntries entries = entries.map fun e => (e.1, sortKeys e.2) := by
  induction entries with
  | nil => rfl
  | cons e es ih => rw [sortEntries, ih, List.map_cons]

/-! ## Properties -/

namespace Properties

/-- A property map as it is read back. -/
def stored (m : Properties) : Properties := (m.map Scalar.toStored).sorted

theorem toStored_toStored (v : Scalar) : v.toStored.toStored = v.toStored := by
  cases v with
  | float x =>
    have hx : (Scalar.float x).toStored = if Decimal.isFinite x then .float x else .null := rfl
    by_cases h : Decimal.isFinite x = true
    · rw [hx, if_pos h, hx, if_pos h]
    · rw [hx, if_neg h]
      rfl
  | _ => rfl

theorem stored_eq (m : Properties) : m.stored = m.sorted.map Scalar.toStored :=
  OrderedMap.sorted_map _ m

theorem toStored_eq (m : Properties) : (m.map Scalar.toStored).map Scalar.toStored
    = m.map Scalar.toStored := by
  rw [OrderedMap.map_map]
  exact congrArg m.map (funext toStored_toStored)

theorem stored_stored (m : Properties) : m.stored.stored = m.stored := by
  unfold stored
  rw [← OrderedMap.sorted_map, toStored_eq, OrderedMap.sorted_sorted]

theorem sortKeys_ofProperties (m : Properties) :
    sortKeys (.ofProperties m) = .ofProperties m.sorted := by
  unfold Document.ofProperties
  rw [sortKeys, sortEntries_eq, List.map_map]
  show Document.map ((m.map Document.scalar).sorted.entries) = _
  rw [OrderedMap.sorted_map]
  rfl

/-- A property map is written as it is read back. -/
theorem sortKeys_toStored (m : Properties) : sortKeys m.toStored = .ofProperties m.stored :=
  sortKeys_ofProperties _

theorem Valid.stored {m : Properties} (h : m.Valid) : m.stored.Valid := by
  rw [valid_iff] at h ⊢
  intro k hk
  rw [stored_eq, OrderedMap.keys_map] at hk
  exact h k (((m.entries.mergeSort_perm keyLe).map Prod.fst).mem_iff.mp hk)

/-- The entries of a valid property map are read as that map. -/
theorem check_ofProperties {m : Properties} (h : m.Valid) :
    (Document.ofProperties m).asMap.andThen check = .accepted m :=
  Checked.andThen_eq_accepted.mpr ⟨m.toEntries, rfl, check_toEntries h⟩

/-- A property map whose floats, as far as they are kept, are read back. -/
def Legible (m : Properties) : Prop :=
  ∀ x, .float x ∈ m.values → Decimal.isFinite x = true → ReadsBack x

/-- What is a float when it is stored was that float, and finite. -/
theorem float_mem_values_stored {m : Properties} {x : Float} (h : .float x ∈ m.stored.values) :
    .float x ∈ m.values ∧ Decimal.isFinite x = true := by
  obtain ⟨k, hk⟩ := OrderedMap.mem_values.mp h
  rw [stored_eq] at hk
  obtain ⟨⟨k', w⟩, hw, heq⟩ := List.mem_map.mp hk
  have hmem : (k', w) ∈ m.entries := (m.entries.mergeSort_perm keyLe).mem_iff.mp hw
  have hval : w.toStored = .float x := (Prod.mk.inj heq).2
  cases w with
  | float y =>
    have hy : (Scalar.float y).toStored = if Decimal.isFinite y then .float y else .null := rfl
    rw [hy] at hval
    split at hval
    · rename_i hfin
      obtain rfl := Scalar.float.inj hval
      exact ⟨OrderedMap.mem_values.mpr ⟨k', hmem⟩, hfin⟩
    · exact absurd hval (by simp)
  | null => exact absurd hval (by simp [Scalar.toStored])
  | bool b => exact absurd hval (by simp [Scalar.toStored])
  | int n => exact absurd hval (by simp [Scalar.toStored])
  | text t => exact absurd hval (by simp [Scalar.toStored])

/-- What holds of all scalars of a stored map holds of those that its document has. -/
theorem forall_ofProperties_stored {P : Document → Prop} {m : Properties}
    (h : ∀ v ∈ m.stored.values, P (.scalar v)) :
    ∀ e ∈ m.stored.entries.map fun e => (e.1, Document.scalar e.2), P e.2 := by
  intro e he
  obtain ⟨⟨k, v⟩, hd, rfl⟩ := List.mem_map.mp he
  exact h v (OrderedMap.mem_values.mpr ⟨k, hd⟩)

theorem Legible.readable {m : Properties} (h : m.Legible) (levels : Nat) :
    Readable (levels + 1) (.ofProperties m.stored) := by
  refine Readable.map ?_ (forall_ofProperties_stored fun v hv => Readable.scalar fun x hx => ?_)
  · rw [List.map_map]
    exact m.stored.nodup_keys
  · obtain ⟨hmem, hfin⟩ := float_mem_values_stored (hx ▸ hv)
    exact h x hmem hfin

end Properties

/-! ## Fields -/

/-- A field of a map is found when the map has been sorted. -/
theorem field?_mergeSort {es : List (String × Document)} (h : (es.map Prod.fst).Nodup)
    {name other : String} {d : Document} (hd : es.lookup name = some d) :
    Document.field? (es.mergeSort keyLe) name other = some d := by
  unfold Document.field?
  rw [lookup_mergeSort h, hd]
  rfl

theorem readable_text (levels : Nat) (t : String) : Readable levels (.text t) :=
  Readable.scalar (by simp)

theorem readable_texts (levels : Nat) (ts : List String) :
    Readable (levels + 1) (.list (ts.map .text)) := by
  refine Readable.list fun d hd => ?_
  obtain ⟨t, -, rfl⟩ := List.mem_map.mp hd
  exact readable_text levels t

/-! ## Nodes -/

/-- The text of a date-time is read as the date-time. -/
def DateTime.ReadsBack (t : DateTime) : Prop :=
  Document.asDateTime (.text t.written) = .accepted t

namespace Node

/-- A node as it is read back. -/
def stored (n : Node) : Node := { n with properties := n.properties.stored }

/-- A node whose floats and date-times are read back. -/
structure Legible (n : Node) : Prop where
  properties : n.properties.Legible
  createdAt : n.createdAt.ReadsBack
  updatedAt : n.updatedAt.ReadsBack

/-- The entries of the document of a node, with its properties in order. -/
def storedEntries (n : Node) : List (String × Document) :=
  [("id", .text n.id), ("type", .text n.type), ("properties", .ofProperties n.properties.stored),
    ("labels", .list (n.labels.map .text)), ("createdAt", .text n.createdAt.written),
    ("updatedAt", .text n.updatedAt.written)]

theorem nodup_storedEntries (n : Node) : (n.storedEntries.map Prod.fst).Nodup := by
  show ["id", "type", "properties", "labels", "createdAt", "updatedAt"].Nodup
  decide

theorem sortKeys_toDocument (n : Node) :
    sortKeys n.toDocument = .map (n.storedEntries.mergeSort keyLe) := by
  -- only the properties have keys of their own
  have hlabels : sortKeys (.list (n.labels.map .text)) = .list (n.labels.map .text) := by
    rw [sortKeys, sortItems_eq, List.map_map]
    rfl
  unfold toDocument storedEntries
  rw [sortKeys, sortEntries_eq, List.map_cons, List.map_cons, List.map_cons, List.map_cons,
    List.map_cons, List.map_cons, List.map_nil, Properties.sortKeys_toStored, hlabels]
  rfl

theorem sortKeys_stored (n : Node) :
    sortKeys n.stored.toDocument = sortKeys n.toDocument := by
  rw [sortKeys_toDocument, sortKeys_toDocument]
  unfold storedEntries stored
  rw [Properties.stored_stored]

/-- The documents of the fields are texts, a list of texts and the properties. -/
theorem forall_storedEntries {P : Document → Prop} {n : Node} (htext : ∀ t, P (.text t))
    (htexts : ∀ ts : List String, P (.list (ts.map .text)))
    (hproperties : P (.ofProperties n.properties.stored)) :
    ∀ e ∈ n.storedEntries.mergeSort keyLe, P e.2 := by
  intro e he
  have he := (n.storedEntries.mergeSort_perm keyLe).mem_iff.mp he
  unfold storedEntries at he
  simp only [List.mem_cons, List.not_mem_nil, or_false] at he
  rcases he with rfl | rfl | rfl | rfl | rfl | rfl
  · exact htext _
  · exact htext _
  · exact hproperties
  · exact htexts _
  · exact htext _
  · exact htext _

theorem Legible.readable {n : Node} (h : n.Legible) (levels : Nat) :
    Readable (levels + 2) (sortKeys n.toDocument) := by
  rw [sortKeys_toDocument]
  exact Readable.map (nodup_mergeSort n.nodup_storedEntries) (forall_storedEntries
    (readable_text _) (readable_texts levels) (h.properties.readable levels))

/-- A valid node is read back from its document. -/
theorem Valid.ofDocument_sortKeys {n : Node} (h : n.Valid) (hl : n.Legible) :
    ofDocument (sortKeys n.toDocument) = .accepted n.stored := by
  have hfield : ∀ {name other d}, n.storedEntries.lookup name = some d →
      Document.field? (n.storedEntries.mergeSort keyLe) name other = some d :=
    field?_mergeSort n.nodup_storedEntries
  rw [sortKeys_toDocument]
  refine ofChecked_eq_accepted.mpr ⟨?_, ?_, ?_, ?_, ?_, ?_⟩
  · exact required_eq_accepted.mpr ⟨_, hfield rfl, checkId_eq_accepted.mpr ⟨h.id, rfl⟩⟩
  · exact required_eq_accepted.mpr ⟨_, hfield rfl, checkType_of_trimmed h.type h.trimmed⟩
  · exact optional_eq_accepted.mpr
      (Or.inr ⟨_, hfield rfl, Properties.check_ofProperties h.properties.stored⟩)
  · exact optional_eq_accepted.mpr (Or.inr ⟨_, hfield rfl, list_asText n.labels⟩)
  · exact required_eq_accepted.mpr ⟨_, hfield rfl, hl.createdAt⟩
  · exact required_eq_accepted.mpr ⟨_, hfield rfl, hl.updatedAt⟩

end Node

/-! ## Relationships -/

namespace Relationship

/-- A relationship as it is read back. -/
def stored (r : Relationship) : Relationship := { r with properties := r.properties.stored }

/-- A relationship whose floats and date-times are read back. -/
structure Legible (r : Relationship) : Prop where
  properties : r.properties.Legible
  weight : ∀ x, r.weight = some x → ReadsBack x
  createdAt : r.createdAt.ReadsBack
  updatedAt : r.updatedAt.ReadsBack

/-- The entries of the document of a relationship, with its properties in order. -/
def storedEntries (r : Relationship) : List (String × Document) :=
  [("id", .text r.id), ("type", .text r.type), ("sourceId", .text r.source),
    ("targetId", .text r.target), ("properties", .ofProperties r.properties.stored),
    ("weight", r.weightDocument), ("createdAt", .text r.createdAt.written),
    ("updatedAt", .text r.updatedAt.written)]

theorem nodup_storedEntries (r : Relationship) : (r.storedEntries.map Prod.fst).Nodup := by
  show ["id", "type", "sourceId", "targetId", "properties", "weight", "createdAt",
    "updatedAt"].Nodup
  decide

theorem sortKeys_toDocument (r : Relationship) :
    sortKeys r.toDocument = .map (r.storedEntries.mergeSort keyLe) := by
  have hweight : sortKeys (r.weight.elim .null .float) = r.weightDocument := by
    unfold weightDocument
    cases r.weight <;> rfl
  unfold toDocument storedEntries
  rw [sortKeys, sortEntries_eq, List.map_cons, List.map_cons, List.map_cons, List.map_cons,
    List.map_cons, List.map_cons, List.map_cons, List.map_cons, List.map_nil,
    Properties.sortKeys_toStored, hweight]
  rfl

theorem sortKeys_stored (r : Relationship) :
    sortKeys r.stored.toDocument = sortKeys r.toDocument := by
  rw [sortKeys_toDocument, sortKeys_toDocument]
  unfold storedEntries stored weightDocument
  rw [Properties.stored_stored]

/-- The documents of the fields are texts, the properties and the weight. -/
theorem forall_storedEntries {P : Document → Prop} {r : Relationship} (htext : ∀ t, P (.text t))
    (hproperties : P (.ofProperties r.properties.stored)) (hweight : P r.weightDocument) :
    ∀ e ∈ r.storedEntries.mergeSort keyLe, P e.2 := by
  intro e he
  have he := (r.storedEntries.mergeSort_perm keyLe).mem_iff.mp he
  unfold storedEntries at he
  simp only [List.mem_cons, List.not_mem_nil, or_false] at he
  rcases he with rfl | rfl | rfl | rfl | rfl | rfl | rfl | rfl
  · exact htext _
  · exact htext _
  · exact htext _
  · exact htext _
  · exact hproperties
  · exact hweight
  · exact htext _
  · exact htext _

/-- A weight is nothing or a float. -/
theorem forall_weightDocument {r : Relationship} {P : Document → Prop}
    (h : ∀ v : Scalar, (∀ x, v = .float x → r.weight = some x) → P (.scalar v)) :
    P r.weightDocument := by
  unfold weightDocument
  cases hq : r.weight with
  | none => exact h .null (by simp)
  | some x => exact h (.float x) fun y hy => by rw [hq, Scalar.float.inj hy]

theorem Legible.readable {r : Relationship} (h : r.Legible) (levels : Nat) :
    Readable (levels + 2) (sortKeys r.toDocument) := by
  rw [sortKeys_toDocument]
  exact Readable.map (nodup_mergeSort r.nodup_storedEntries) (forall_storedEntries
    (readable_text _) (h.properties.readable levels)
    (forall_weightDocument fun v hv => Readable.scalar fun x hx => h.weight x (hv x hx)))

/-- A valid relationship is read back from its document. -/
theorem Valid.ofDocument_sortKeys {r : Relationship} (h : r.Valid) (hw : r.Weighable)
    (hl : r.Legible) : ofDocument (sortKeys r.toDocument) = .accepted r.stored := by
  have hfield : ∀ {name other d}, r.storedEntries.lookup name = some d →
      Document.field? (r.storedEntries.mergeSort keyLe) name other = some d :=
    field?_mergeSort r.nodup_storedEntries
  rw [sortKeys_toDocument]
  refine ofChecked_eq_accepted.mpr ⟨?_, ?_, ?_, ?_, ?_, ?_, ?_, ?_⟩
  · exact required_eq_accepted.mpr ⟨_, hfield rfl, checkId_eq_accepted.mpr ⟨h.id, rfl⟩⟩
  · exact required_eq_accepted.mpr ⟨_, hfield rfl, checkType_of_trimmed h.type h.trimmed⟩
  · exact required_eq_accepted.mpr ⟨_, hfield rfl, checkId_eq_accepted.mpr ⟨h.source, rfl⟩⟩
  · exact required_eq_accepted.mpr ⟨_, hfield rfl, checkId_eq_accepted.mpr ⟨h.target, rfl⟩⟩
  · exact optional_eq_accepted.mpr
      (Or.inr ⟨_, hfield rfl, Properties.check_ofProperties h.properties.stored⟩)
  · exact optional_eq_accepted.mpr (Or.inr ⟨_, hfield rfl,
      Checked.andThen_eq_accepted.mpr ⟨r.weight, r.asFloat?_weightDocument, hw⟩⟩)
  · exact required_eq_accepted.mpr ⟨_, hfield rfl, hl.createdAt⟩
  · exact required_eq_accepted.mpr ⟨_, hfield rfl, hl.updatedAt⟩

end Relationship

/-! ## Snapshots -/

namespace Snapshot

/-- A snapshot as it is read back. -/
def stored (g : Snapshot) : Snapshot :=
  { g with nodes := g.nodes.map Node.stored, relationships := g.relationships.map .stored }

/-- A snapshot whose floats and date-times are read back. -/
structure Legible (g : Snapshot) : Prop where
  nodes : ∀ n ∈ g.nodes, n.Legible
  relationships : ∀ r ∈ g.relationships, r.Legible

/-- The entries of the document of a snapshot, with all maps in it in order. -/
def storedEntries (g : Snapshot) : List (String × Document) :=
  [("nodes", .list (g.nodes.map fun n => sortKeys n.toDocument)),
    ("relationships", .list (g.relationships.map fun r => sortKeys r.toDocument)),
    ("name", .ofText? g.name), ("description", .ofText? g.description)]

theorem nodup_storedEntries (g : Snapshot) : (g.storedEntries.map Prod.fst).Nodup := by
  show ["nodes", "relationships", "name", "description"].Nodup
  decide

theorem sortKeys_toDocument (g : Snapshot) :
    sortKeys g.toDocument = .map (g.storedEntries.mergeSort keyLe) := by
  have htext : ∀ s : Option String, sortKeys (.ofText? s) = .ofText? s := by
    intro s
    cases s <;> rfl
  unfold toDocument storedEntries
  rw [sortKeys, sortEntries_eq, List.map_cons, List.map_cons, List.map_cons, List.map_cons,
    List.map_nil, sortKeys, sortKeys, sortItems_eq, sortItems_eq, List.map_map, List.map_map, htext,
    htext]
  rfl

/-- Storing once more what has been read back changes nothing. -/
theorem sortKeys_stored (g : Snapshot) : sortKeys g.stored.toDocument = sortKeys g.toDocument := by
  have hnodes : g.nodes.map ((fun n => sortKeys n.toDocument) ∘ Node.stored)
      = g.nodes.map fun n => sortKeys n.toDocument :=
    List.map_congr_left fun n _ => n.sortKeys_stored
  have hrels : g.relationships.map ((fun r => sortKeys r.toDocument) ∘ Relationship.stored)
      = g.relationships.map fun r => sortKeys r.toDocument :=
    List.map_congr_left fun r _ => r.sortKeys_stored
  rw [sortKeys_toDocument, sortKeys_toDocument]
  unfold storedEntries stored
  dsimp only
  rw [List.map_map, List.map_map, hnodes, hrels]

/-- The documents of the fields are the elements and perhaps two texts. -/
theorem forall_storedEntries {P : Document → Prop} {g : Snapshot}
    (hnodes : P (.list (g.nodes.map fun n => sortKeys n.toDocument)))
    (hrels : P (.list (g.relationships.map fun r => sortKeys r.toDocument)))
    (htext : ∀ s : Option String, P (.ofText? s)) :
    ∀ e ∈ g.storedEntries.mergeSort keyLe, P e.2 := by
  intro e he
  have he := (g.storedEntries.mergeSort_perm keyLe).mem_iff.mp he
  unfold storedEntries at he
  simp only [List.mem_cons, List.not_mem_nil, or_false] at he
  rcases he with rfl | rfl | rfl | rfl
  · exact hnodes
  · exact hrels
  · exact htext _
  · exact htext _

theorem Legible.readable {g : Snapshot} (h : g.Legible) (levels : Nat) :
    Readable (levels + 4) (sortKeys g.toDocument) := by
  rw [sortKeys_toDocument]
  refine Readable.map (nodup_mergeSort g.nodup_storedEntries) (forall_storedEntries ?_ ?_ ?_)
  · refine Readable.list fun d hd => ?_
    obtain ⟨n, hn, rfl⟩ := List.mem_map.mp hd
    exact (h.nodes n hn).readable levels
  · refine Readable.list fun d hd => ?_
    obtain ⟨r, hr, rfl⟩ := List.mem_map.mp hd
    exact (h.relationships r hr).readable levels
  · intro s
    cases s <;> exact Readable.scalar (by simp)

/-- Items that are accepted one by one are accepted together. -/
theorem readElements_eq_ok {α β : Type} {entries : List (String × Document)} {key : String}
    (model : Model) {read : Document → Checked β} {as : List α} {write : α → Document} {f : α → β}
    (hkey : entries.lookup key = some (.list (as.map write)))
    (hread : ∀ a ∈ as, read (write a) = .accepted (f a)) :
    readElements entries key model read = .ok (as.map f) := by
  unfold readElements
  rw [hkey]
  refine mapM_eq_ok_iff.mpr ?_
  rw [List.forall₂_map_left_iff, List.forall₂_map_right_iff, List.forall₂_same]
  intro a ha
  rw [hread a ha]
  rfl

/-- **A valid snapshot is read back from its document**, with its properties as they are stored. -/
theorem Valid.ofDocument_sortKeys {g : Snapshot} (h : g.Valid)
    (hw : ∀ r ∈ g.relationships, r.Weighable) (hl : g.Legible) :
    ofDocument (sortKeys g.toDocument) = .ok g.stored := by
  have hlookup := lookup_mergeSort g.nodup_storedEntries
  have hnodes := readElements_eq_ok .node (hlookup "nodes")
    fun n hn => (h.nodes n hn).ofDocument_sortKeys (hl.nodes n hn)
  have hrels := readElements_eq_ok .relationship (hlookup "relationships")
    fun r hr => (h.relationships r hr).ofDocument_sortKeys (hw r hr) (hl.relationships r hr)
  have htext : ∀ s : Option String, (Document.ofText? s).asText? = .accepted s := by
    intro s
    cases s <;> rfl
  have htitle : readTitle (g.storedEntries.mergeSort keyLe)
      = .accepted (g.name, g.description) := by
    unfold readTitle
    refine Checked.seq_eq_accepted.mpr ⟨_, _, Checked.map_eq_accepted.mpr ⟨_, ?_, rfl⟩, ?_, rfl⟩
    · exact optional_eq_accepted.mpr
        (Or.inr ⟨_, field?_mergeSort g.nodup_storedEntries rfl, htext g.name⟩)
    · exact optional_eq_accepted.mpr
        (Or.inr ⟨_, field?_mergeSort g.nodup_storedEntries rfl, htext g.description⟩)
  have htitle' : (readTitle (g.storedEntries.mergeSort keyLe)).toExcept.mapError
      (Fault.refused .snapshot) = .ok (g.name, g.description) :=
    mapError_eq_ok_iff.mpr (Checked.toExcept_eq_ok.mpr htitle)
  rw [sortKeys_toDocument]
  exact bind_eq_ok_iff.mpr ⟨_, hnodes, bind_eq_ok_iff.mpr ⟨_, hrels,
    bind_eq_ok_iff.mpr ⟨_, htitle', rfl⟩⟩⟩

end Snapshot

end PropertyGraph
