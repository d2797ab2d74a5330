import Mathlib.Data.List.Forall2
import PropertyGraph.Proofs.OrderedMap
import PropertyGraph.Proofs.Trim
import PropertyGraph.Snapshot

/-!
# What the checks of elements accept

A check either accepts a value or lists violations, and checks are put together from smaller ones.
Each way of putting them together has one lemma here that says when the whole accepts, so that an
accepted element can be taken apart field by field.

The outcome is that accepted elements are valid: their ids and types are not blank, their types are
trimmed, and their properties have keys that are not empty and scalars for values. This holds
whichever way the element came in: from its parts or from a document.
-/

namespace PropertyGraph

open Text

/-! ## Answers in sequence -/

section

variable {ε ε' α β : Type}

theorem bind_eq_ok_iff {x : Except ε α} {f : α → Except ε β} {b : β} :
    (x >>= f) = .ok b ↔ ∃ a, x = .ok a ∧ f a = .ok b := by
  cases x with
  | error e => simp [bind, Except.bind]
  | ok a => simp [bind, Except.bind]

theorem bind_eq_error_iff {x : Except ε α} {f : α → Except ε β} {e : ε} :
    (x >>= f) = .error e ↔ x = .error e ∨ ∃ a, x = .ok a ∧ f a = .error e := by
  cases x with
  | error e => simp [bind, Except.bind]
  | ok a => simp [bind, Except.bind]

theorem mapError_eq_ok_iff {f : ε → ε'} {x : Except ε α} {a : α} :
    x.mapError f = .ok a ↔ x = .ok a := by
  cases x with
  | error e => simp [Except.mapError]
  | ok a => simp [Except.mapError]

theorem mapError_eq_error_iff {f : ε → ε'} {x : Except ε α} {e' : ε'} :
    x.mapError f = .error e' ↔ ∃ e, x = .error e ∧ f e = e' := by
  cases x with
  | error e => simp [Except.mapError]
  | ok a => simp [Except.mapError]

theorem map_eq_error_iff {f : α → β} {x : Except ε α} {e : ε} :
    x.map f = .error e ↔ x = .error e := by
  cases x with
  | error e' => simp [Except.map]
  | ok a => simp [Except.map]

theorem exists_map_eq_ok_iff {f : α → β} {x : Except ε α} :
    (∃ b, x.map f = .ok b) ↔ ∀ e, x ≠ .error e := by
  cases x with
  | error e => simp [Except.map]
  | ok a => simp [Except.map]

theorem mapM_eq_ok_iff {f : α → Except ε β} {as : List α} {bs : List β} :
    as.mapM f = .ok bs ↔ List.Forall₂ (fun a b => f a = .ok b) as bs := by
  induction as generalizing bs with
  | nil =>
    rw [List.mapM_nil, List.forall₂_nil_left_iff]
    exact ⟨fun h => (Except.ok.inj h).symm, fun h => congrArg Except.ok h.symm⟩
  | cons a as ih =>
    rw [List.mapM_cons, bind_eq_ok_iff, List.forall₂_cons_left_iff]
    constructor
    · rintro ⟨b, hb, h⟩
      obtain ⟨bs', hbs, h⟩ := bind_eq_ok_iff.mp h
      exact ⟨b, bs', hb, ih.mp hbs, (Except.ok.inj h).symm⟩
    · rintro ⟨b, bs', hb, hbs, rfl⟩
      exact ⟨b, hb, bind_eq_ok_iff.mpr ⟨bs', ih.mpr hbs, rfl⟩⟩

/-- The first of the errors is the error of the whole. -/
theorem mapM_eq_error_iff {f : α → Except ε β} {as : List α} {e : ε} :
    as.mapM f = .error e ↔ ∃ front a back, as = front ++ a :: back
      ∧ (∀ x ∈ front, ∃ b, f x = .ok b) ∧ f a = .error e := by
  induction as with
  | nil =>
    rw [List.mapM_nil]
    constructor
    · exact nofun
    · rintro ⟨front, a, back, h, -⟩
      exact absurd h (by simp)
  | cons a as ih =>
    rw [List.mapM_cons, bind_eq_error_iff]
    constructor
    · rintro (ha | ⟨b, hb, h⟩)
      · exact ⟨[], a, as, rfl, nofun, ha⟩
      · obtain has | ⟨_, -, h⟩ := bind_eq_error_iff.mp h
        · obtain ⟨front, x, back, rfl, hfront, hx⟩ := ih.mp has
          exact ⟨a :: front, x, back, rfl, List.forall_mem_cons.mpr ⟨⟨b, hb⟩, hfront⟩, hx⟩
        · exact nomatch h
    · rintro ⟨front, x, back, h, hfront, hx⟩
      cases front with
      | nil =>
        obtain ⟨rfl, -⟩ := List.cons.inj h
        exact Or.inl hx
      | cons c front =>
        obtain ⟨rfl, rfl⟩ := List.cons.inj h
        obtain ⟨⟨b, hb⟩, hfront⟩ := List.forall_mem_cons.mp hfront
        exact Or.inr ⟨b, hb, bind_eq_error_iff.mpr
          (Or.inl (ih.mpr ⟨front, x, back, rfl, hfront, hx⟩))⟩

end

/-! ## Putting checks together -/

namespace Checked

variable {α β : Type}

theorem map_eq_accepted {f : α → β} {c : Checked α} {b : β} :
    f <$> c = accepted b ↔ ∃ a, c = accepted a ∧ f a = b := by
  show c.map f = accepted b ↔ _
  cases c with
  | accepted a => simp [map]
  | refused vs => simp [map]

theorem seq_eq_accepted {f : Checked (α → β)} {c : Checked α} {b : β} :
    f <*> c = accepted b ↔ ∃ g a, f = accepted g ∧ c = accepted a ∧ g a = b := by
  show f.ap c = accepted b ↔ _
  cases f with
  | accepted g => cases c <;> simp [ap]
  | refused vs => cases c <;> simp [ap]

theorem within_eq_accepted {step : Step} {c : Checked α} {a : α} :
    c.within step = accepted a ↔ c = accepted a := by
  cases c with
  | accepted b => simp [within]
  | refused vs => simp [within]

theorem andThen_eq_accepted {c : Checked α} {f : α → Checked β} {b : β} :
    c.andThen f = accepted b ↔ ∃ a, c = accepted a ∧ f a = accepted b := by
  cases c with
  | accepted a => simp [andThen]
  | refused vs => simp [andThen]

theorem toExcept_eq_ok {c : Checked α} {a : α} : c.toExcept = .ok a ↔ c = accepted a := by
  cases c with
  | accepted b => simp [toExcept]
  | refused vs => simp [toExcept]

end Checked

open Checked

/-! ## Fields -/

theorem checkId_eq_accepted {reason : Rejection} {id a : String} :
    checkId reason id = accepted a ↔ isBlankText id = false ∧ id = a := by
  unfold checkId
  split
  · rename_i h
    simp [h, fail]
  · rename_i h
    simp [h]

theorem checkType_eq_accepted {reason : Rejection} {type a : String} :
    checkType reason type = accepted a ↔ isBlankText type = false ∧ trim type = a := by
  unfold checkType
  split
  · rename_i h
    simp [h, fail]
  · rename_i h
    simp [h]

theorem required_eq_accepted {α : Type} {entries : List (String × Document)} {name other : String}
    {read : Document → Checked α} {a : α} :
    Document.required entries name other read = accepted a
      ↔ ∃ d, Document.field? entries name other = some d ∧ read d = accepted a := by
  unfold Document.required
  rw [within_eq_accepted]
  cases Document.field? entries name other with
  | none => simp [fail]
  | some d => simp

theorem optional_eq_accepted {α : Type} {entries : List (String × Document)} {name other : String}
    {default : α} {read : Document → Checked α} {a : α} :
    Document.optional entries name other default read = accepted a
      ↔ (Document.field? entries name other = none ∧ default = a)
        ∨ ∃ d, Document.field? entries name other = some d ∧ read d = accepted a := by
  unfold Document.optional
  rw [within_eq_accepted]
  cases Document.field? entries name other with
  | none => simp
  | some d => simp

/-! ## Properties -/

namespace Properties

/-- As documents, the keys are not empty and the values are scalars. -/
def Valid (m : Properties) : Prop :=
  ∀ e ∈ (m.map Document.scalar).entries, e.1 ≠ "" ∧ e.2.scalar?.isSome = true

theorem valid_iff {m : Properties} : m.Valid ↔ ∀ k ∈ m.keys, k ≠ "" := by
  unfold Valid OrderedMap.map OrderedMap.keys
  constructor
  · intro h k hk
    obtain ⟨e, he, rfl⟩ := List.mem_map.mp hk
    exact (h (e.1, .scalar e.2) (List.mem_map.mpr ⟨e, he, rfl⟩)).1
  · intro h e he
    obtain ⟨d, hd, rfl⟩ := List.mem_map.mp he
    exact ⟨h d.1 (List.mem_map.mpr ⟨d, hd, rfl⟩), rfl⟩

theorem valid_empty : Valid ∅ := by
  rw [valid_iff]
  intro k hk
  exact absurd hk (by simp [OrderedMap.keys])

theorem rejection?_eq_none_iff {key : String} {value : Document} :
    rejection? key value = none ↔ key ≠ "" ∧ value.scalar?.isSome = true := by
  unfold rejection?
  by_cases hk : key = ""
  · simp [hk]
  · cases hv : value.scalar? with
    | none => simp [hk]
    | some v => simp [hk]

/-- Entries are accepted if none of them is rejected, and become the map of their scalars. -/
theorem check_eq_accepted {entries : List (String × Document)} {m : Properties} :
    check entries = accepted m
      ↔ (∀ e ∈ entries, e.1 ≠ "" ∧ e.2.scalar?.isSome = true)
        ∧ OrderedMap.ofList (entries.filterMap fun e => e.2.scalar?.map (e.1, ·)) = m := by
  have hnone : (entries.findSome? fun e => rejection? e.1 e.2) = none
      ↔ ∀ e ∈ entries, e.1 ≠ "" ∧ e.2.scalar?.isSome = true := by
    rw [List.findSome?_eq_none_iff]
    exact forall₂_congr fun e _ => rejection?_eq_none_iff
  rw [← hnone]
  unfold check
  cases hq : entries.findSome? fun e => rejection? e.1 e.2 with
  | none => simp
  | some reason => simp [fail]

theorem valid_of_check {entries : List (String × Document)} {m : Properties}
    (h : check entries = accepted m) : m.Valid := by
  obtain ⟨hentries, rfl⟩ := check_eq_accepted.mp h
  rw [valid_iff]
  intro k hk
  -- a key of the map is the key of an entry
  obtain ⟨e, he, rfl⟩ := List.mem_map.mp (OrderedMap.mem_keys_ofList hk)
  obtain ⟨d, hd, hde⟩ := List.mem_filterMap.mp he
  obtain ⟨v, -, rfl⟩ := Option.map_eq_some_iff.mp hde
  exact (hentries d hd).1

end Properties

/-- The property field of an element: absent, or a map that is accepted. -/
theorem properties_valid_of_optional {entries : List (String × Document)} {name other : String}
    {m : Properties}
    (h : Document.optional entries name other ∅
      (fun d => d.asMap.andThen Properties.check) = accepted m) : m.Valid := by
  rcases optional_eq_accepted.mp h with ⟨-, rfl⟩ | ⟨d, -, hd⟩
  · exact Properties.valid_empty
  · obtain ⟨es, -, hes⟩ := andThen_eq_accepted.mp hd
    exact Properties.valid_of_check hes

/-! ## Nodes -/

namespace Node

/-- What every node of a graph satisfies. -/
structure Valid (n : Node) : Prop where
  /-- The id is not blank. -/
  id : isBlankText n.id = false
  /-- The type is not blank. -/
  type : isBlankText n.type = false
  /-- The type has no blanks around it. -/
  trimmed : Trimmed n.type.toList
  /-- Keys are not empty, values are scalars. -/
  properties : n.properties.Valid

theorem ofChecked_eq_accepted {id type : Checked String} {properties : Checked Properties}
    {labels : Checked (List String)} {createdAt updatedAt : Checked DateTime} {n : Node} :
    ofChecked id type properties labels createdAt updatedAt = accepted n
      ↔ id = accepted n.id ∧ type = accepted n.type ∧ properties = accepted n.properties
        ∧ labels = accepted n.labels ∧ createdAt = accepted n.createdAt
        ∧ updatedAt = accepted n.updatedAt := by
  unfold ofChecked
  constructor
  · intro h
    obtain ⟨_, u, h₅, hu, rfl⟩ := seq_eq_accepted.mp h
    obtain ⟨_, c, h₄, hc, rfl⟩ := seq_eq_accepted.mp h₅
    obtain ⟨_, ls, h₃, hls, rfl⟩ := seq_eq_accepted.mp h₄
    obtain ⟨_, ps, h₂, hps, rfl⟩ := seq_eq_accepted.mp h₃
    obtain ⟨_, t, h₁, ht, rfl⟩ := seq_eq_accepted.mp h₂
    obtain ⟨i, hi, rfl⟩ := map_eq_accepted.mp h₁
    exact ⟨hi, ht, hps, hls, hc, hu⟩
  · rintro ⟨rfl, rfl, rfl, rfl, rfl, rfl⟩
    rfl

/-- A node from its parts is accepted field by field, and only its type is changed. -/
theorem check_eq_accepted {id type : String} {properties : List (String × Document)}
    {labels : List Document} {createdAt updatedAt : DateTime} {n : Node} :
    check id type properties labels createdAt updatedAt = accepted n
      ↔ (isBlankText id = false ∧ id = n.id) ∧ (isBlankText type = false ∧ trim type = n.type)
        ∧ Properties.check properties = accepted n.properties
        ∧ Checked.list Document.asText labels = accepted n.labels
        ∧ createdAt = n.createdAt ∧ updatedAt = n.updatedAt := by
  unfold check
  rw [ofChecked_eq_accepted, within_eq_accepted, within_eq_accepted, within_eq_accepted,
    within_eq_accepted, checkId_eq_accepted, checkType_eq_accepted, accepted.injEq, accepted.injEq]

theorem valid_of_check {id type : String} {properties : List (String × Document)}
    {labels : List Document} {createdAt updatedAt : DateTime} {n : Node}
    (h : check id type properties labels createdAt updatedAt = accepted n) : n.Valid := by
  obtain ⟨⟨hid, hid'⟩, ⟨htype, htype'⟩, hps, -⟩ := check_eq_accepted.mp h
  exact
    { id := hid' ▸ hid
      type := htype' ▸ isBlankText_trim htype
      trimmed := by rw [← htype', toList_trim]; exact strip_trimmed _
      properties := Properties.valid_of_check hps }

theorem valid_of_ofDocument {d : Document} {n : Node} (h : ofDocument d = accepted n) :
    n.Valid := by
  unfold ofDocument at h
  split at h
  · rename_i entries
    unfold ofEntries at h
    obtain ⟨hid, htype, hps, -⟩ := ofChecked_eq_accepted.mp h
    obtain ⟨_, -, hid⟩ := required_eq_accepted.mp hid
    obtain ⟨i, -, hid⟩ := andThen_eq_accepted.mp hid
    obtain ⟨hid, hid'⟩ := checkId_eq_accepted.mp hid
    obtain ⟨_, -, htype⟩ := required_eq_accepted.mp htype
    obtain ⟨t, -, htype⟩ := andThen_eq_accepted.mp htype
    obtain ⟨htype, htype'⟩ := checkType_eq_accepted.mp htype
    exact
      { id := hid' ▸ hid
        type := htype' ▸ isBlankText_trim htype
        trimmed := by rw [← htype', toList_trim]; exact strip_trimmed _
        properties := properties_valid_of_optional hps }
  · exact absurd h (by simp [fail])

end Node

/-! ## Relationships -/

namespace Relationship

/-- What every relationship of a graph satisfies by itself. -/
structure Valid (r : Relationship) : Prop where
  /-- The id is not blank. -/
  id : isBlankText r.id = false
  /-- The type is not blank. -/
  type : isBlankText r.type = false
  /-- The type has no blanks around it. -/
  trimmed : Trimmed r.type.toList
  /-- The id of the source is not blank. -/
  source : isBlankText r.source = false
  /-- Nor is that of the target. -/
  target : isBlankText r.target = false
  /-- Keys are not empty, values are scalars. -/
  properties : r.properties.Valid

theorem ofChecked_eq_accepted {id type source target : Checked String}
    {properties : Checked Properties} {weight : Checked (Option Float)}
    {createdAt updatedAt : Checked DateTime} {r : Relationship} :
    ofChecked id type source target properties weight createdAt updatedAt = accepted r
      ↔ id = accepted r.id ∧ type = accepted r.type ∧ source = accepted r.source
        ∧ target = accepted r.target ∧ properties = accepted r.properties
        ∧ weight = accepted r.weight ∧ createdAt = accepted r.createdAt
        ∧ updatedAt = accepted r.updatedAt := by
  unfold ofChecked
  constructor
  · intro h
    obtain ⟨_, u, h₇, hu, rfl⟩ := seq_eq_accepted.mp h
    obtain ⟨_, c, h₆, hc, rfl⟩ := seq_eq_accepted.mp h₇
    obtain ⟨_, w, h₅, hw, rfl⟩ := seq_eq_accepted.mp h₆
    obtain ⟨_, ps, h₄, hps, rfl⟩ := seq_eq_accepted.mp h₅
    obtain ⟨_, g, h₃, hg, rfl⟩ := seq_eq_accepted.mp h₄
    obtain ⟨_, s, h₂, hs, rfl⟩ := seq_eq_accepted.mp h₃
    obtain ⟨_, t, h₁, ht, rfl⟩ := seq_eq_accepted.mp h₂
    obtain ⟨i, hi, rfl⟩ := map_eq_accepted.mp h₁
    exact ⟨hi, ht, hs, hg, hps, hw, hc, hu⟩
  · rintro ⟨rfl, rfl, rfl, rfl, rfl, rfl, rfl, rfl⟩
    rfl

theorem check_eq_accepted {id type source target : String}
    {properties : List (String × Document)} {weight : Document} {createdAt updatedAt : DateTime}
    {r : Relationship} :
    check id type source target properties weight createdAt updatedAt = accepted r
      ↔ (isBlankText id = false ∧ id = r.id) ∧ (isBlankText type = false ∧ trim type = r.type)
        ∧ (isBlankText source = false ∧ source = r.source)
        ∧ (isBlankText target = false ∧ target = r.target)
        ∧ Properties.check properties = accepted r.properties
        ∧ weight.asFloat?.andThen checkWeight = accepted r.weight
        ∧ createdAt = r.createdAt ∧ updatedAt = r.updatedAt := by
  unfold check
  rw [ofChecked_eq_accepted, within_eq_accepted, within_eq_accepted, within_eq_accepted,
    within_eq_accepted, within_eq_accepted, within_eq_accepted, checkId_eq_accepted,
    checkType_eq_accepted, checkId_eq_accepted, checkId_eq_accepted, accepted.injEq,
    accepted.injEq]

theorem valid_of_check {id type source target : String}
    {properties : List (String × Document)} {weight : Document} {createdAt updatedAt : DateTime}
    {r : Relationship}
    (h : check id type source target properties weight createdAt updatedAt = accepted r) :
    r.Valid := by
  obtain ⟨⟨hid, hid'⟩, ⟨htype, htype'⟩, ⟨hs, hs'⟩, ⟨ht, ht'⟩, hps, -⟩ := check_eq_accepted.mp h
  exact
    { id := hid' ▸ hid
      type := htype' ▸ isBlankText_trim htype
      trimmed := by rw [← htype', toList_trim]; exact strip_trimmed _
      source := hs' ▸ hs
      target := ht' ▸ ht
      properties := Properties.valid_of_check hps }

theorem id_not_blank_of_required {entries : List (String × Document)} {name other id : String}
    (h : Document.required entries name other
      (fun d => d.asText.andThen (checkId .blankId)) = accepted id) : isBlankText id = false := by
  obtain ⟨_, -, h⟩ := required_eq_accepted.mp h
  obtain ⟨_, -, h⟩ := andThen_eq_accepted.mp h
  obtain ⟨h, h'⟩ := checkId_eq_accepted.mp h
  exact h' ▸ h

theorem valid_of_ofDocument {d : Document} {r : Relationship} (h : ofDocument d = accepted r) :
    r.Valid := by
  unfold ofDocument at h
  split at h
  · rename_i entries
    unfold ofEntries at h
    obtain ⟨hid, htype, hs, ht, hps, -⟩ := ofChecked_eq_accepted.mp h
    obtain ⟨_, -, htype⟩ := required_eq_accepted.mp htype
    obtain ⟨t, -, htype⟩ := andThen_eq_accepted.mp htype
    obtain ⟨htype, htype'⟩ := checkType_eq_accepted.mp htype
    exact
      { id := id_not_blank_of_required hid
        type := htype' ▸ isBlankText_trim htype
        trimmed := by rw [← htype', toList_trim]; exact strip_trimmed _
        source := id_not_blank_of_required hs
        target := id_not_blank_of_required ht
        properties := properties_valid_of_optional hps }
  · exact absurd h (by simp [fail])

end Relationship

/-! ## Snapshots -/

namespace Snapshot

/-- A snapshot of valid elements. Nothing is said about how they hang together. -/
structure Valid (g : Snapshot) : Prop where
  /-- Every node is valid. -/
  nodes : ∀ n ∈ g.nodes, n.Valid
  /-- Every relationship is valid. -/
  relationships : ∀ r ∈ g.relationships, r.Valid

/-- What reading every item of a list gives was read from some item. -/
theorem mem_mapM {α : Type} {model : Model} {read : Document → Checked α}
    {items : List Document} {as : List α}
    (h : items.mapM (fun d => (read d).toExcept.mapError (Fault.refused model)) = .ok as)
    {a : α} (ha : a ∈ as) : ∃ d ∈ items, read d = accepted a := by
  have hall := mapM_eq_ok_iff.mp h
  clear h
  induction hall with
  | nil => exact absurd ha List.not_mem_nil
  | @cons d b items as hd _ ih =>
    rcases List.mem_cons.mp ha with rfl | ha
    · exact ⟨d, List.mem_cons_self, toExcept_eq_ok.mp (mapError_eq_ok_iff.mp hd)⟩
    · obtain ⟨d', hd', hread⟩ := ih ha
      exact ⟨d', List.mem_cons_of_mem _ hd', hread⟩

theorem mem_readElements {α : Type} {entries : List (String × Document)} {key : String}
    {model : Model} {read : Document → Checked α} {as : List α}
    (h : readElements entries key model read = .ok as) {a : α} (ha : a ∈ as) :
    ∃ d, read d = accepted a := by
  unfold readElements at h
  split at h
  · exact absurd h (by simp)
  · obtain ⟨d, -, hd⟩ := mem_mapM h ha
    exact ⟨d, hd⟩

/-- **A snapshot that is read from a document is one of valid elements.** -/
theorem valid_of_ofDocument {d : Document} {g : Snapshot} (h : ofDocument d = .ok g) :
    g.Valid := by
  unfold ofDocument at h
  split at h
  · rename_i entries
    obtain ⟨ns, hns, h⟩ := bind_eq_ok_iff.mp h
    obtain ⟨rs, hrs, h⟩ := bind_eq_ok_iff.mp h
    obtain ⟨title, _, h⟩ := bind_eq_ok_iff.mp h
    obtain rfl := Except.ok.inj h
    refine ⟨?_, ?_⟩
    · intro n hn
      obtain ⟨d, hd⟩ := mem_readElements hns hn
      exact Node.valid_of_ofDocument hd
    · intro r hr
      obtain ⟨d, hd⟩ := mem_readElements hrs hr
      exact Relationship.valid_of_ofDocument hd
  · exact absurd h (by simp)

end Snapshot

end PropertyGraph
