import PropertyGraph.Proofs.Elements

/-!
# Checking accepted elements again

What a check has accepted it accepts again, and the second time it changes nothing: a type that has
been trimmed is trimmed, a property map lists scalars under keys that are not empty, and a weight
that was not at most zero is not so later. A node or a relationship can therefore be created once
more from its own parts, and only its date-times will be different.
-/

namespace PropertyGraph

open Text Checked

namespace Properties

/-- The entries of a property map, as they are handed to a creation. -/
def toEntries (m : Properties) : List (String × Document) := (m.map Document.scalar).entries

theorem ofList_toEntries (m : Properties) : (OrderedMap.ofList m.toEntries).entries = m.toEntries :=
  congrArg OrderedMap.entries (OrderedMap.ofList_entries _)

theorem scalars_toEntries (m : Properties) :
    m.toEntries.filterMap (fun e => e.2.scalar?.map (e.1, ·)) = m.entries := by
  unfold toEntries OrderedMap.map
  rw [List.filterMap_map]
  exact List.filterMap_some

/-- A valid property map is accepted as it is. -/
theorem check_toEntries {m : Properties} (h : m.Valid) : check m.toEntries = accepted m :=
  check_eq_accepted.mpr ⟨h, by rw [scalars_toEntries, OrderedMap.ofList_entries]⟩

theorem scalars_of_isSome {es : List (String × Document)}
    (h : ∀ e ∈ es, e.2.scalar?.isSome = true) :
    (es.filterMap fun e => e.2.scalar?.map (e.1, ·)).map (fun e => (e.1, .scalar e.2)) = es := by
  induction es with
  | nil => rfl
  | cons e es ih =>
    obtain ⟨key, value⟩ := e
    have hrest := ih fun e he => h e (List.mem_cons_of_mem _ he)
    have hvalue := h (key, value) List.mem_cons_self
    cases value with
    | scalar v => exact congrArg ((key, Document.scalar v) :: ·) hrest
    | _ => exact absurd hvalue (by simp [Document.scalar?])

/-- A map of documents is accepted if it is a valid property map, as documents. -/
theorem check_entries_iff {documents : OrderedMap String Document} {m : Properties} :
    check documents.entries = accepted m ↔ m.Valid ∧ documents = m.map .scalar := by
  constructor
  · intro h
    refine ⟨valid_of_check h, ?_⟩
    obtain ⟨hentries, rfl⟩ := check_eq_accepted.mp h
    have hscalars := scalars_of_isSome fun e he => (hentries e he).2
    ext1
    show documents.entries = (OrderedMap.ofList _).entries.map _
    rw [OrderedMap.entries_ofList, hscalars]
    -- the scalars stand under the keys of the documents
    have hkeys := congrArg (List.map Prod.fst) hscalars
    rw [List.map_map] at hkeys
    exact hkeys ▸ documents.nodup_keys
  · rintro ⟨hvalid, rfl⟩
    exact check_toEntries hvalid

end Properties

/-- A list of texts is accepted item by item, whatever index the first has. -/
theorem list_go_asText (ls : List String) (i : Nat) :
    Checked.list.go Document.asText i (ls.map .text) = accepted ls := by
  induction ls generalizing i with
  | nil => rfl
  | cons l ls ih =>
    rw [List.map_cons, Checked.list.go, ih (i + 1)]
    rfl

theorem list_asText (ls : List String) :
    Checked.list Document.asText (ls.map .text) = accepted ls := list_go_asText ls 0

/-- Only texts are accepted as texts. -/
theorem list_go_asText_eq_accepted {ds : List Document} {ls : List String} {i : Nat}
    (h : Checked.list.go Document.asText i ds = accepted ls) : ds = ls.map .text := by
  induction ds generalizing ls i with
  | nil =>
    obtain rfl := accepted.inj h
    rfl
  | cons d ds ih =>
    rw [Checked.list.go] at h
    obtain ⟨_, rest, hfirst, hrest, rfl⟩ := seq_eq_accepted.mp h
    obtain ⟨l, hl, rfl⟩ := map_eq_accepted.mp hfirst
    have hd : d = .text l := by
      rw [within_eq_accepted] at hl
      unfold Document.asText at hl
      split at hl
      · rw [accepted.inj hl]
      · exact absurd hl (by simp [fail])
    rw [List.map_cons, hd, ih hrest]

theorem list_asText_iff {ds : List Document} {ls : List String} :
    Checked.list Document.asText ds = accepted ls ↔ ds = ls.map .text := by
  constructor
  · exact list_go_asText_eq_accepted
  · rintro rfl
    exact list_asText ls

theorem checkType_of_trimmed {reason : Rejection} {type : String} (h : isBlankText type = false)
    (ht : Trimmed type.toList) : checkType reason type = accepted type :=
  checkType_eq_accepted.mpr ⟨h, trim_of_trimmed ht⟩

/-! ## Nodes -/

namespace Node

/-- The same node, created and updated at a given time. -/
def stampedAt (n : Node) (t : DateTime) : Node := { n with createdAt := t, updatedAt := t }

theorem Valid.check_again {n : Node} (h : n.Valid) (t : DateTime) :
    check n.id n.type n.properties.toEntries (n.labels.map .text) t t
      = accepted (n.stampedAt t) :=
  check_eq_accepted.mpr ⟨⟨h.id, rfl⟩, ⟨h.type, trim_of_trimmed h.trimmed⟩,
    Properties.check_toEntries h.properties, list_asText n.labels, rfl, rfl⟩

end Node

/-! ## Relationships -/

namespace Relationship

/-- A relationship whose weight, if it has one, is not at most zero. -/
def Weighable (r : Relationship) : Prop := checkWeight r.weight = accepted r.weight

/-- A weight is accepted as it is, unless it is at most zero. -/
theorem checkWeight_eq_accepted_iff {w v : Option Float} :
    checkWeight w = accepted v ↔ (∀ x ∈ w, ¬ x ≤ 0) ∧ w = v := by
  cases w with
  | none => simp [checkWeight]
  | some x =>
    unfold checkWeight
    by_cases hx : x ≤ 0
    · simp [hx, fail]
    · simp [hx]

theorem checkWeight_eq_accepted {w v : Option Float} (h : checkWeight w = accepted v) :
    checkWeight v = accepted v := by
  obtain ⟨-, rfl⟩ := checkWeight_eq_accepted_iff.mp h
  exact h

theorem weighable_of_check {id type source target : String}
    {properties : List (String × Document)} {weight : Document} {createdAt updatedAt : DateTime}
    {r : Relationship}
    (h : check id type source target properties weight createdAt updatedAt = accepted r) :
    r.Weighable := by
  obtain ⟨-, -, -, -, -, hw, -⟩ := check_eq_accepted.mp h
  obtain ⟨w, -, hw⟩ := andThen_eq_accepted.mp hw
  exact checkWeight_eq_accepted hw

theorem weighable_of_ofDocument {d : Document} {r : Relationship} (h : ofDocument d = accepted r) :
    r.Weighable := by
  unfold ofDocument at h
  split at h
  · rename_i entries
    unfold ofEntries at h
    obtain ⟨-, -, -, -, -, hw, -⟩ := ofChecked_eq_accepted.mp h
    rcases optional_eq_accepted.mp hw with ⟨-, hnone⟩ | ⟨d, -, hw⟩
    · unfold Weighable
      rw [← hnone]
      rfl
    · obtain ⟨w, -, hw⟩ := andThen_eq_accepted.mp hw
      exact checkWeight_eq_accepted hw
  · exact absurd h (by simp [fail])

/-- The weight of a relationship as it is handed to a creation. -/
def weightDocument (r : Relationship) : Document := r.weight.elim .null .float

theorem asFloat?_weightDocument (r : Relationship) :
    r.weightDocument.asFloat? = accepted r.weight := by
  unfold weightDocument
  cases r.weight <;> rfl

/-- The same relationship, created and updated at a given time. -/
def stampedAt (r : Relationship) (t : DateTime) : Relationship :=
  { r with createdAt := t, updatedAt := t }

theorem Valid.check_again {r : Relationship} (h : r.Valid) (hw : r.Weighable) (t : DateTime) :
    check r.id r.type r.source r.target r.properties.toEntries r.weightDocument t t
      = accepted (r.stampedAt t) :=
  check_eq_accepted.mpr ⟨⟨h.id, rfl⟩, ⟨h.type, trim_of_trimmed h.trimmed⟩, ⟨h.source, rfl⟩,
    ⟨h.target, rfl⟩, Properties.check_toEntries h.properties,
    andThen_eq_accepted.mpr ⟨r.weight, r.asFloat?_weightDocument, hw⟩, rfl, rfl⟩

/-! ## Guarantees -/

/-- What both ways of accepting a relationship guarantee. -/
structure Guaranteed (P : Relationship → Prop) : Prop where
  /-- It holds of what is accepted from its parts. -/
  of_check : ∀ {id type source target : String} {properties : List (String × Document)}
    {weight : Document} {createdAt updatedAt : DateTime} {r : Relationship},
    check id type source target properties weight createdAt updatedAt = accepted r → P r
  /-- It holds of what is accepted from a document. -/
  of_document : ∀ {d : Document} {r : Relationship}, ofDocument d = accepted r → P r

theorem Guaranteed.of_snapshot {P : Relationship → Prop} (hP : Guaranteed P) {d : Document}
    {g : Snapshot} (h : Snapshot.ofDocument d = .ok g) : ∀ r ∈ g.relationships, P r := by
  unfold Snapshot.ofDocument at h
  split at h
  · obtain ⟨ns, -, h⟩ := bind_eq_ok_iff.mp h
    obtain ⟨rs, hrs, h⟩ := bind_eq_ok_iff.mp h
    obtain ⟨title, _, h⟩ := bind_eq_ok_iff.mp h
    obtain rfl := Except.ok.inj h
    intro r hr
    obtain ⟨d, hd⟩ := Snapshot.mem_readElements hrs hr
    exact hP.of_document hd
  · exact absurd h (by simp)

theorem guaranteed_weighable : Guaranteed Weighable where
  of_check := weighable_of_check
  of_document := weighable_of_ofDocument

end Relationship

end PropertyGraph
