import PropertyGraph.Proofs.Edits
import PropertyGraph.Proofs.Recheck

/-!
# What a change makes of an element

An update checks an element again as a whole, from the documents that its fields are: the property
map with the given one merged in, or the given one alone, and the labels or the weight, if they are
given. What the check accepts are these documents again, so the fields of the new element are known
from those of the old: `NodeChange.Makes` and `RelationshipChange.Makes`.

What several changes make of an element, one after the other, depends on what each of them assigns.
Merging is associative, and merging a map in twice is the same as once; so two changes can be made
as one, and a change can be repeated.
-/

namespace PropertyGraph

open Checked

/-! ## Assignments of properties -/

/-- The property map that an update gives, and whether it replaces all properties. -/
structure Assignment where
  given : OrderedMap String Document
  replace : Bool

namespace Assignment

variable {a b : Assignment} {as : List Assignment}

/-- The property map that an assignment leaves. -/
def apply (a : Assignment) (m : OrderedMap String Document) : OrderedMap String Document :=
  (if a.replace then ∅ else m).merge a.given

/-- An assignment and then one that merges, as one. -/
def andThen (a b : Assignment) : Assignment := ⟨a.given.merge b.given, a.replace⟩

theorem apply_andThen (hb : b.replace = false) (m : OrderedMap String Document) :
    (a.andThen b).apply m = b.apply (a.apply m) := by
  unfold apply andThen
  rw [hb, if_neg Bool.false_ne_true, OrderedMap.merge_assoc]

theorem apply_apply (a : Assignment) (m : OrderedMap String Document) :
    a.apply (a.apply m) = a.apply m := by
  unfold apply
  cases a.replace with
  | false =>
    show (m.merge a.given).merge a.given = m.merge a.given
    rw [OrderedMap.merge_assoc, OrderedMap.merge_self]
  | true => rfl

/-- Assignments that replace nothing merge in the maps that they give. -/
theorem foldl_apply_of_merging (h : ∀ a ∈ as, a.replace = false)
    (m : OrderedMap String Document) :
    as.foldl (fun m a => a.apply m) m = (as.map given).foldl OrderedMap.merge m := by
  induction as generalizing m with
  | nil => rfl
  | cons a as ih =>
    rw [List.foldl_cons, List.map_cons, List.foldl_cons,
      ih fun b hb => h b (List.mem_cons_of_mem _ hb), apply, h a List.mem_cons_self]
    rfl

end Assignment

/-- What assignments, made one after the other, are to leave of the properties of an element. -/
structure Properties.Amended (m : Properties) (as : List Assignment) (m' : Properties) : Prop where
  eq : m'.map .scalar = as.foldl (fun m a => a.apply m) (m.map .scalar)
  /-- If none of them replaces, they merge the given maps into what was there. -/
  merged : (∀ a ∈ as, a.replace = false) →
    (m.map Document.scalar).Merges (as.map Assignment.given) (m'.map .scalar)
  /-- Otherwise the last one that does starts from nothing, and those after it merge into that. -/
  replaced : ∀ before a after, as = before ++ a :: after → a.replace = true →
    (∀ b ∈ after, b.replace = false) →
      (∅ : OrderedMap String Document).Merges ((a :: after).map Assignment.given) (m'.map .scalar)

theorem Properties.amended_of_eq {m m' : Properties} {as : List Assignment}
    (h : m'.map .scalar = as.foldl (fun m a => a.apply m) (m.map .scalar)) :
    m.Amended as m' where
  eq := h
  merged := by
    intro has
    rw [h, Assignment.foldl_apply_of_merging has]
    exact OrderedMap.merges_foldl _ _
  replaced := by
    rintro before a after rfl ha hafter
    have hstart : ∀ m, a.apply m = (∅ : OrderedMap String Document).merge a.given := by
      intro m
      rw [Assignment.apply, ha, if_pos rfl]
    rw [h, List.foldl_append, List.foldl_cons, hstart, Assignment.foldl_apply_of_merging hafter]
    exact OrderedMap.merges_foldl ∅ ((a :: after).map Assignment.given)

theorem Properties.Amended.append {m m' m'' : Properties} {as bs : List Assignment}
    (h : m.Amended as m') (h' : m'.Amended bs m'') : m.Amended (as ++ bs) m'' := by
  refine amended_of_eq ?_
  rw [List.foldl_append, ← h.eq, h'.eq]

/-- What is checked after a change of properties is what its assignment leaves. -/
theorem Properties.changed_eq (m : Properties) (entries : List (String × Document))
    (replace : Bool) : m.changed entries replace
      = ((⟨OrderedMap.ofList entries, replace⟩ : Assignment).apply (m.map .scalar)).entries := by
  unfold changed Assignment.apply
  rw [OrderedMap.merge_ofList]

/-! ## Changes of nodes -/

namespace NodeChange

def assignment (c : NodeChange) : Assignment := ⟨OrderedMap.ofList c.properties, c.replace⟩

/-- Two changes as one, where the second merges: with the merged map, and the labels given last. -/
def andThen (c d : NodeChange) : NodeChange where
  properties := (c.assignment.andThen d.assignment).given.entries
  labels := d.labels.or c.labels
  replace := c.replace

/-- What a change makes of a node. -/
structure Makes (c : NodeChange) (n n' : Node) : Prop where
  lasting : n'.lasting = n.lasting
  properties : n'.properties.map .scalar = c.assignment.apply (n.properties.map .scalar)
  valid : n'.properties.Valid
  labels : n'.labels.map .text = c.labels.getD (n.labels.map .text)

variable {c d : NodeChange} {n n₁ n₂ : Node}

theorem assignment_andThen (c d : NodeChange) :
    (c.andThen d).assignment = c.assignment.andThen d.assignment :=
  congrArg (Assignment.mk · c.replace) (OrderedMap.ofList_entries _)

theorem Makes.andThen (hc : c.Makes n n₁) (hd : d.Makes n₁ n₂) (hmerge : d.replace = false) :
    (c.andThen d).Makes n n₂ where
  lasting := hd.lasting.trans hc.lasting
  properties := by
    rw [assignment_andThen, Assignment.apply_andThen hmerge, ← hc.properties, hd.properties]
  valid := hd.valid
  labels := by
    rw [hd.labels, hc.labels]
    exact Option.getD_or.symm

/-- A change makes nothing more of what it has made. -/
theorem Makes.again (hc : c.Makes n n₁) : c.Makes n₁ n₁ where
  lasting := rfl
  properties := by rw [hc.properties, Assignment.apply_apply]
  valid := hc.valid
  labels := by
    have hlabels := hc.labels
    cases hgiven : c.labels with
    | none => rfl
    | some ls => rwa [hgiven] at hlabels

/-- An update of a valid node is accepted exactly for what the change makes of it. -/
theorem check_iff (h : n.Valid) {t : DateTime} {n' : Node} :
    Node.check n.id n.type (n.properties.changed c.properties c.replace)
        (c.labels.getD (n.labels.map .text)) n.createdAt t = accepted n'
      ↔ c.Makes n n' ∧ n'.updatedAt = t := by
  rw [Node.check_eq_accepted, Text.trim_of_trimmed h.trimmed, Properties.changed_eq,
    Properties.check_entries_iff, list_asText_iff]
  constructor
  · rintro ⟨⟨-, hid⟩, ⟨-, htype⟩, ⟨hvalid, hproperties⟩, hlabels, hcreated, hupdated⟩
    refine ⟨⟨?_, hproperties.symm, hvalid, hlabels.symm⟩, hupdated.symm⟩
    unfold Node.lasting
    rw [← hid, ← htype, ← hcreated]
  · rintro ⟨hmakes, hupdated⟩
    obtain ⟨hid, htype, -, hcreated⟩ := Lasting.mk.inj hmakes.lasting
    exact ⟨⟨h.id, hid.symm⟩, ⟨h.type, htype.symm⟩, ⟨hmakes.valid, hmakes.properties.symm⟩,
      hmakes.labels.symm, hcreated.symm, hupdated.symm⟩

end NodeChange

/-- What changes, made one after the other, are to leave of a node. -/
structure Node.Amended (n : Node) (cs : List NodeChange) (n' : Node) : Prop where
  lasting : n'.lasting = n.lasting
  properties : n.properties.Amended (cs.map NodeChange.assignment) n'.properties
  /-- The labels are those that were given last, or the old ones if none were given. -/
  labels : n'.labels.map .text
    = (cs.filterMap NodeChange.labels).getLast?.getD (n.labels.map .text)
  /-- Without a change the node stays as it is. -/
  unchanged : cs = [] → n' = n

namespace Node.Amended

variable {n n' n'' : Node} {cs ds : List NodeChange}

theorem refl (n : Node) : n.Amended [] n :=
  ⟨rfl, Properties.amended_of_eq rfl, rfl, fun _ => rfl⟩

theorem single {c : NodeChange} (h : c.Makes n n') : n.Amended [c] n' where
  lasting := h.lasting
  properties := Properties.amended_of_eq h.properties
  labels := by
    rw [h.labels]
    cases hgiven : c.labels with
    | none => simp [hgiven]
    | some ls => simp [hgiven]
  unchanged hnil := absurd hnil (List.cons_ne_nil _ _)

theorem append (h : n.Amended cs n') (h' : n'.Amended ds n'') : n.Amended (cs ++ ds) n'' where
  lasting := h'.lasting.trans h.lasting
  properties := by
    rw [List.map_append]
    exact h.properties.append h'.properties
  labels := by
    rw [h'.labels, h.labels, List.filterMap_append, List.getLast?_append, Option.getD_or]
  unchanged hnil := by
    obtain ⟨hcs, hds⟩ := List.append_eq_nil_iff.mp hnil
    rw [h'.unchanged hds, h.unchanged hcs]

end Node.Amended

/-! ## Changes of relationships -/

namespace RelationshipChange

def assignment (c : RelationshipChange) : Assignment :=
  ⟨OrderedMap.ofList c.properties, c.replace⟩

/-- The weight that a change gives, if it gives one. -/
def weight? (c : RelationshipChange) : Option Document :=
  match c.weight with
  | .scalar .null => none
  | given => some given

/-- Two changes as one, where the second merges: with the merged map, and the weight given last. -/
def andThen (c d : RelationshipChange) : RelationshipChange where
  properties := (c.assignment.andThen d.assignment).given.entries
  weight := d.weight?.getD c.weight
  replace := c.replace

/-- What a change makes of a relationship. -/
structure Makes (c : RelationshipChange) (r r' : Relationship) : Prop where
  lasting : r'.lasting = r.lasting
  properties : r'.properties.map .scalar = c.assignment.apply (r.properties.map .scalar)
  valid : r'.properties.Valid
  weight : (r.weightAfter c).asFloat?.andThen Relationship.checkWeight = accepted r'.weight

variable {c d : RelationshipChange} {r r₁ r₂ : Relationship}

theorem assignment_andThen (c d : RelationshipChange) :
    (c.andThen d).assignment = c.assignment.andThen d.assignment :=
  congrArg (Assignment.mk · c.replace) (OrderedMap.ofList_entries _)

theorem weightAfter_eq (c : RelationshipChange) (r : Relationship) :
    r.weightAfter c = c.weight?.getD r.weightDocument := by
  unfold weight? Relationship.weightAfter
  cases c.weight with
  | scalar v => cases v <;> rfl
  | list _ => rfl
  | map _ => rfl

theorem weight?_eq_some {w : Document} (h : c.weight? = some w) : c.weight = w ∧ w ≠ .null := by
  unfold weight? at h
  split at h
  · exact absurd h (by simp)
  · rename_i hnot
    exact ⟨Option.some.inj h, fun hw => hnot ((Option.some.inj h).trans hw)⟩

/-- The weight that is given last counts. -/
theorem weight?_andThen (c d : RelationshipChange) :
    (c.andThen d).weight? = d.weight?.or c.weight? := by
  have hcongr : ∀ {e f : RelationshipChange}, e.weight = f.weight → e.weight? = f.weight? := by
    intro e f h
    unfold weight?
    rw [h]
  cases hgiven : d.weight? with
  | none =>
    rw [Option.none_or]
    exact hcongr (congrArg (Option.getD · c.weight) hgiven)
  | some w =>
    rw [Option.some_or, ← hgiven]
    exact hcongr ((congrArg (Option.getD · c.weight) hgiven).trans (weight?_eq_some hgiven).1.symm)

/-- A relationship that is given no weight keeps its own. -/
theorem Makes.weight_of_none (hc : c.Makes r r₁) (h : c.weight? = none) :
    r₁.weight = r.weight := by
  have hweight := hc.weight
  rw [weightAfter_eq, h, Option.getD_none] at hweight
  obtain ⟨w, hw, hcheck⟩ := andThen_eq_accepted.mp hweight
  rw [Relationship.asFloat?_weightDocument] at hw
  rw [accepted.inj hw, (Relationship.checkWeight_eq_accepted_iff.mp hcheck).2]

/-- One that is given a weight has the float that the weight denotes. -/
theorem Makes.weight_of_some (hc : c.Makes r r₁) {w : Document} (h : c.weight? = some w) :
    ∃ x, w.asFloat = accepted x ∧ r₁.weight = some x := by
  have hweight := hc.weight
  rw [weightAfter_eq, h, Option.getD_some] at hweight
  obtain ⟨v, hv, hcheck⟩ := andThen_eq_accepted.mp hweight
  rw [← (Relationship.checkWeight_eq_accepted_iff.mp hcheck).2]
  have hnull := (weight?_eq_some h).2
  unfold Document.asFloat? at hv
  split at hv
  · exact absurd rfl hnull
  · obtain ⟨x, hx, rfl⟩ := map_eq_accepted.mp hv
    exact ⟨x, hx, rfl⟩

/-- The weight that a relationship has is accepted again. -/
theorem Makes.weighable (hc : c.Makes r r₁) : r₁.Weighable := by
  obtain ⟨w, -, hcheck⟩ := andThen_eq_accepted.mp hc.weight
  exact Relationship.checkWeight_eq_accepted hcheck

theorem Makes.andThen (hc : c.Makes r r₁) (hd : d.Makes r₁ r₂) (hmerge : d.replace = false) :
    (c.andThen d).Makes r r₂ where
  lasting := hd.lasting.trans hc.lasting
  properties := by
    rw [assignment_andThen, Assignment.apply_andThen hmerge, ← hc.properties, hd.properties]
  valid := hd.valid
  weight := by
    rw [weightAfter_eq, weight?_andThen, Option.getD_or]
    cases hgiven : d.weight? with
    | none =>
      rw [Option.getD_none, ← weightAfter_eq, hd.weight_of_none hgiven]
      exact hc.weight
    | some w =>
      have hweight := hd.weight
      rwa [weightAfter_eq, hgiven] at hweight

/-- A change makes nothing more of what it has made. -/
theorem Makes.again (hc : c.Makes r r₁) : c.Makes r₁ r₁ where
  lasting := rfl
  properties := by rw [hc.properties, Assignment.apply_apply]
  valid := hc.valid
  weight := by
    have hweight := hc.weight
    rw [weightAfter_eq] at hweight ⊢
    cases hgiven : c.weight? with
    | none =>
      exact andThen_eq_accepted.mpr ⟨r₁.weight, r₁.asFloat?_weightDocument, hc.weighable⟩
    | some w => rwa [hgiven] at hweight

/-- An update of a valid relationship is accepted exactly for what the change makes of it. -/
theorem check_iff (h : r.Valid) {t : DateTime} {r' : Relationship} :
    Relationship.check r.id r.type r.source r.target
        (r.properties.changed c.properties c.replace) (r.weightAfter c) r.createdAt t = accepted r'
      ↔ c.Makes r r' ∧ r'.updatedAt = t := by
  rw [Relationship.check_eq_accepted, Text.trim_of_trimmed h.trimmed, Properties.changed_eq,
    Properties.check_entries_iff]
  constructor
  · rintro ⟨⟨-, hid⟩, ⟨-, htype⟩, ⟨-, hsource⟩, ⟨-, htarget⟩, ⟨hvalid, hproperties⟩, hweight,
      hcreated, hupdated⟩
    refine ⟨⟨?_, hproperties.symm, hvalid, hweight⟩, hupdated.symm⟩
    unfold Relationship.lasting
    rw [← hid, ← htype, ← hsource, ← htarget, ← hcreated]
  · rintro ⟨hmakes, hupdated⟩
    obtain ⟨hid, htype, hends, hcreated⟩ := Lasting.mk.inj hmakes.lasting
    obtain ⟨hsource, htarget⟩ := Prod.mk.inj (Option.some.inj hends)
    exact ⟨⟨h.id, hid.symm⟩, ⟨h.type, htype.symm⟩, ⟨h.source, hsource.symm⟩,
      ⟨h.target, htarget.symm⟩, ⟨hmakes.valid, hmakes.properties.symm⟩, hmakes.weight,
      hcreated.symm, hupdated.symm⟩

end RelationshipChange

/-- What changes, made one after the other, are to leave of a relationship. -/
structure Relationship.Amended (r : Relationship) (cs : List RelationshipChange)
    (r' : Relationship) : Prop where
  lasting : r'.lasting = r.lasting
  properties : r.properties.Amended (cs.map RelationshipChange.assignment) r'.properties
  /-- Without a weight that is given, the old one stays. -/
  kept : (cs.filterMap RelationshipChange.weight?).getLast? = none → r'.weight = r.weight
  /-- Otherwise the weight is the float that the last one given denotes. -/
  weight : ∀ w, (cs.filterMap RelationshipChange.weight?).getLast? = some w →
    ∃ x, w.asFloat = accepted x ∧ r'.weight = some x
  /-- Without a change the relationship stays as it is. -/
  unchanged : cs = [] → r' = r

namespace Relationship.Amended

variable {r r' r'' : Relationship} {cs ds : List RelationshipChange}

theorem refl (r : Relationship) : r.Amended [] r where
  lasting := rfl
  properties := Properties.amended_of_eq rfl
  kept _ := rfl
  weight _ hnone := absurd hnone (by simp)
  unchanged _ := rfl

theorem single {c : RelationshipChange} (h : c.Makes r r') : r.Amended [c] r' where
  lasting := h.lasting
  properties := Properties.amended_of_eq h.properties
  kept hnone := by
    cases hgiven : c.weight? with
    | none => exact h.weight_of_none hgiven
    | some w => exact absurd hnone (by simp [hgiven])
  weight w hsome := by
    cases hgiven : c.weight? with
    | none => exact absurd hsome (by simp [hgiven])
    | some v =>
      obtain rfl : v = w := by simpa [hgiven] using hsome
      exact h.weight_of_some hgiven
  unchanged hnil := absurd hnil (List.cons_ne_nil _ _)

theorem append (h : r.Amended cs r') (h' : r'.Amended ds r'') : r.Amended (cs ++ ds) r'' where
  lasting := h'.lasting.trans h.lasting
  properties := by
    rw [List.map_append]
    exact h.properties.append h'.properties
  kept hnone := by
    rw [List.filterMap_append, List.getLast?_append, Option.or_eq_none_iff] at hnone
    rw [h'.kept hnone.1, h.kept hnone.2]
  weight w hsome := by
    rw [List.filterMap_append, List.getLast?_append, Option.or_eq_some_iff] at hsome
    rcases hsome with hsome | ⟨hnone, hsome⟩
    · exact h'.weight w hsome
    · rw [h'.kept hnone]
      exact h.weight w hsome
  unchanged hnil := by
    obtain ⟨hcs, hds⟩ := List.append_eq_nil_iff.mp hnil
    rw [h'.unchanged hds, h.unchanged hcs]

end Relationship.Amended

end PropertyGraph
