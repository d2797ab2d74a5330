import PropertyGraph.Proofs.Degrees
import PropertyGraph.Proofs.Lineage
import PropertyGraph.Proofs.Origin
import PropertyGraph.Proofs.Publishing
import PropertyGraph.Proofs.Shares

/-!
# Weights of relationships

A weight is refused if it is at most zero. That is not the same as accepting positive weights only:
a float that is no number compares to nothing, so it is not at most zero. All other weights that are
accepted are positive, `not_le_zero_iff`, and a reachable store holds accepted weights only.

Where a weight that is no number comes from can be told as well. No weight is computed: whatever a
store holds was there before or was handed in by a call, `throughout_after`. A run that starts
without such weights, and is handed none, holds positive weights only, and a weighted walk along its
relationships has sums of positive numbers for what leaves a node.
-/

namespace PropertyGraph

open Analytics Checked

/-! ## Floats that can be weights -/

theorem unpack_zero : (0 : Float).toModel.unpack = .zero .positive := by rfl

/-- What is not at most zero is positive or no number. -/
theorem not_le_zero_iff (w : Float) : ¬ w ≤ 0 ↔ 0 < w ∨ w.isNaN = true := by
  show ¬ (decide (w.toModel.unpack.le (0 : Float).toModel.unpack = true) = true)
    ↔ decide ((0 : Float).toModel.unpack.lt w.toModel.unpack = true) = true
      ∨ w.toModel.unpack.isNaN = true
  rw [unpack_zero]
  generalize w.toModel.unpack = u
  cases u with
  | notANumber => decide
  | infinity sign => cases sign <;> decide
  | zero sign => cases sign <;> decide
  | finite sign m e h =>
    cases sign <;> simp [Float.Model.UnpackedFloat.le, Float.Model.UnpackedFloat.lt,
      Float.Model.UnpackedFloat.compare, Float.Model.UnpackedFloat.isNaN]

namespace Relationship

/-- A relationship without a weight, or with one of a kind. -/
def Bears (P : Float → Prop) (r : Relationship) : Prop := ∀ w ∈ r.weight, P w

theorem Weighable.bears {r : Relationship} (h : r.Weighable) :
    r.Bears fun w => 0 < w ∨ w.isNaN = true := by
  intro w hw
  obtain ⟨hle, -⟩ := checkWeight_eq_accepted_iff.mp h
  exact (not_le_zero_iff w).mp (hle w hw)

/-- A relationship without a weight counts as one of weight one. -/
theorem Bears.effectiveWeight {P : Float → Prop} {r : Relationship} (h : r.Bears P)
    (hone : P defaultWeight) : P r.effectiveWeight := by
  unfold Relationship.effectiveWeight
  cases hw : r.weight with
  | none => exact hone
  | some w => exact h w hw

theorem weight_of_check {id type source target : String} {properties : List (String × Document)}
    {weight : Document} {createdAt updatedAt : DateTime} {r : Relationship}
    (h : check id type source target properties weight createdAt updatedAt = accepted r) :
    weight.asFloat? = accepted r.weight := by
  obtain ⟨-, -, -, -, -, hw, -⟩ := check_eq_accepted.mp h
  obtain ⟨w, hread, hw⟩ := andThen_eq_accepted.mp hw
  obtain ⟨-, rfl⟩ := checkWeight_eq_accepted_iff.mp hw
  exact hread

end Relationship

/-! ## Where weights come from -/

/-- Whether a call hands a weight to a store, as a number or as something that denotes one. -/
def Call.Hands (w : Float) : Call → Prop
  | .createRelationship draft => draft.weight.asFloat? = accepted (some w)
  | .updateRelationship _ change => change.weight.asFloat? = accepted (some w)
  | .importSnapshot g => ∃ r ∈ g.relationships, w ∈ r.weight
  | .restore a blob => ∃ g, a.load blob = .ok g ∧ ∃ r ∈ g.relationships, w ∈ r.weight
  | _ => False

/-- A call puts in weights that it was handed, and those that were there. -/
theorem Call.maintains_of_hands {K : Float → Prop} {c : Call} (hK : ∀ w, c.Hands w → K w) :
    c.Maintains (Relationship.Bears K) := by
  cases c with
  | createRelationship draft =>
    intro id type t r hr w hw
    refine hK w ?_
    show draft.weight.asFloat? = accepted (some w)
    rw [Relationship.weight_of_check hr, hw]
  | updateRelationship id change =>
    intro q t r hq hr w hw
    have hread : (q.weightAfter change).asFloat? = accepted (some w) := by
      rw [Relationship.weight_of_check hr, hw]
    -- the weight is a new one, or the one that the relationship had
    unfold Relationship.weightAfter at hread
    split at hread
    · exact hq w (accepted.inj (q.asFloat?_weightDocument.symm.trans hread))
    · exact hK w hread
  | importSnapshot g => exact fun r hr w hw => hK w ⟨r, hr, hw⟩
  | restore a blob => exact fun g hload r hr w hw => hK w ⟨g, hload, r, hr, hw⟩
  | _ => trivial

namespace Store

open Relationship

variable {s : Store} {K : Float → Prop}

/-- **No weight is computed.** After a run every weight was there before, or was handed in. -/
theorem throughout_after (h : s.Throughout (Bears K)) {cs : List (Supply × Call)}
    (hK : ∀ x ∈ cs, ∀ w, x.2.Hands w → K w) : (s.after cs).Throughout (Bears K) := by
  induction cs generalizing s with
  | nil => exact h
  | cons x cs ih =>
    have hnext := h.call x.1 (Call.maintains_of_hands (hK x List.mem_cons_self))
    exact ih hnext fun x' hx' => hK x' (List.mem_cons_of_mem _ hx')

theorem reachable_after (h : Reachable s) {cs : List (Supply × Call)}
    (hcs : ∀ x ∈ cs, x.2.Sourced) : Reachable (s.after cs) := by
  induction cs generalizing s with
  | nil => exact h
  | cons x cs ih =>
    have hnext := Site.reachable_call h x.1 (hcs x List.mem_cons_self)
    exact ih hnext fun x' hx' => hcs x' (List.mem_cons_of_mem _ hx')

end Store

/-! ## What leaves a node -/

namespace Analytics

variable {α : Type} {ids : List String} {rs : List Relationship}

/-- Where ids are distinct, every place is that of its id. -/
theorem isPlace_of_nodup (hnodup : ids.Nodup) (u : Fin ids.length) : isPlace ids u = true := by
  obtain ⟨v, hv⟩ := exists_placeOf? (List.get_mem ids u)
  have hvu : v = u := hnodup.injective_get (get_placeOf? hv)
  unfold isPlace
  rw [hv, hvu]
  exact beq_self_eq_true _

/-- The links that leave a place have the weights of the relationships that leave its node. -/
theorem weights_linksOf (weight : Relationship → α) (hnodup : ids.Nodup)
    (hends : ∀ r ∈ rs, r.source ∈ ids ∧ r.target ∈ ids) (u : Fin ids.length) :
    ((linksOf weight ids rs).filter (·.source == u)).map Link.weight
      = (rs.filter (·.source == ids.get u)).map weight := by
  induction rs with
  | nil => rfl
  | cons r rs ih =>
    obtain ⟨hsource, htarget⟩ := hends r List.mem_cons_self
    obtain ⟨v, hv⟩ := exists_placeOf? hsource
    obtain ⟨w, hw⟩ := exists_placeOf? htarget
    have hrest := ih fun q hq => hends q (List.mem_cons_of_mem _ hq)
    have hsame : (v == u) = (r.source == ids.get u) := by
      rw [beq_of_placeOf? hv, isPlace_of_nodup hnodup, Bool.true_and]
    rw [linksOf_cons weight hv hw, List.filter_cons, List.filter_cons, hsame]
    split
    · rw [List.map_cons, List.map_cons, hrest]
    · exact hrest

theorem outWeight_ofLinks_linksOf [Add α] [OfNat α 0] (weight : Relationship → α)
    (hnodup : ids.Nodup) (hends : ∀ r ∈ rs, r.source ∈ ids ∧ r.target ∈ ids) (u : Fin ids.length) :
    (Walk.ofLinks (linksOf weight ids rs)).outWeight.get u
      = sum ((rs.filter (·.source == ids.get u)).map weight) := by
  rw [← weights_linksOf weight hnodup hends]
  show (Walk.ofLinks (linksOf weight ids rs)).outWeight[u] = _
  unfold Walk.ofLinks
  simp

end Analytics

namespace Store

open Relationship

variable {s : Store}

/-- What a weighted walk takes for the weight that leaves a place. -/
def outWeight (s : Store) (types : List String) (u : Fin s.snapshot.nodeIds.length) : Float :=
  (Walk.ofLinks (linksOf (weightIn true) s.snapshot.nodeIds
    (ofTypes types s.snapshot.relationships))).outWeight.get u

/-- A store in which all weights are of a kind, and with them what a walk makes of them. -/
structure WeighedBy (P : Float → Prop) (s : Store) : Prop where
  /-- A relationship has a weight of the kind, or none. -/
  stored : ∀ e ∈ s.relationships.entries, e.2.Bears P
  /-- A walk follows relationships by weights of the kind. -/
  followed : ∀ types, ∀ r ∈ s.followed types, P r.effectiveWeight
  /-- What leaves a node in all is the sum of the weights of the relationships that leave it. -/
  leaving : ∀ types u, s.outWeight types u
    = sum (((s.followed types).filter (·.source == s.snapshot.nodeIds.get u)).map
        effectiveWeight)

theorem weighedBy_of_throughout (h : Reachable s) {P : Float → Prop} (hone : P defaultWeight)
    (hP : s.Throughout (Bears P)) : s.WeighedBy P := by
  have hs := sound_of_reachable h
  have hids : s.snapshot.nodeIds = s.nodes.keys := hs.nodeIds_eq
  constructor
  case stored => exact hP
  case followed =>
    intro types r hr
    obtain ⟨k, hk⟩ := OrderedMap.mem_values.mp (List.mem_filter.mp hr).1
    exact (hP (k, r) hk).effectiveWeight hone
  case leaving =>
    intro types u
    have hnodup : s.snapshot.nodeIds.Nodup := hids ▸ s.nodes.nodup_keys
    unfold outWeight
    rw [ofTypes_eq_followed]
    refine outWeight_ofLinks_linksOf (weightIn true) hnodup (fun r hr => ?_) u
    rw [hids]
    exact hs.ends_of_followed hr

theorem throughout_of_reachable (h : Reachable s) :
    s.Throughout (Bears fun w => 0 < w ∨ w.isNaN = true) :=
  fun e he => (forall_relationships guaranteed_weighable h e he).bears

/--
**Weights are positive, or no numbers.** In every store that can be reached each weight is positive
unless it is no number, and so is each that a weighted walk adds up for what leaves a node. Where no
weight is like that at first, and no call hands one in, all of them are positive at any later time.
-/
theorem weighedBy_of_reachable (h : Reachable s) :
    s.WeighedBy (fun w => 0 < w ∨ w.isNaN = true)
      ∧ ∀ cs : List (Supply × Call), (∀ x ∈ cs, x.2.Sourced) →
        s.Throughout (Bears fun w => w.isNaN = false) →
        (∀ x ∈ cs, ∀ w, x.2.Hands w → w.isNaN = false) → (s.after cs).WeighedBy (0 < ·) := by
  have hone : 0 < defaultWeight := by decide
  constructor
  · exact weighedBy_of_throughout h (Or.inl hone) (throughout_of_reachable h)
  · intro cs hsourced hstart hhanded
    have hlater := reachable_after h hsourced
    refine weighedBy_of_throughout hlater hone fun e he w hw => ?_
    have hnumber := throughout_after hstart hhanded e he w hw
    rcases throughout_of_reachable hlater e he w hw with hpos | hnan
    · exact hpos
    · exact absurd (hnan.symm.trans hnumber) (by simp)

/-- Two relationships that join the same nodes, one of them with a weight. -/
theorem weighedBy_of_reachable_sample :
    let cs : List (Supply × Call) := [(⟨⟨[], fun _ => "", 0⟩, .still 0⟩,
      .createRelationship ⟨.text "T", "a", "b", [], .float 2, some (.text "w")⟩)]
    Reachable (sample ⟨true, true⟩) ∧ (∀ x ∈ cs, x.2.Sourced)
      ∧ (∀ x ∈ cs, ∀ w, x.2.Hands w → w.isNaN = false)
      ∧ (∃ e ∈ ((sample ⟨true, true⟩).after cs).relationships.entries, e.2.weight = some 2)
      ∧ ((sample ⟨true, true⟩).after cs).WeighedBy (0 < ·) := by
  intro cs
  have hs := Reachable.sample ⟨true, true⟩
  have hsourced : ∀ x ∈ cs, x.2.Sourced := by
    intro x hx g hg
    rw [List.mem_singleton.mp hx] at hg
    exact absurd hg (by simp [Call.imported?])
  have hstart : (sample ⟨true, true⟩).Throughout (Bears fun w => w.isNaN = false) := by
    have hnone : ∀ e ∈ (sample ⟨true, true⟩).relationships.entries, e.2.weight = none := by decide
    intro e he w hw
    exact absurd ((hnone e he).symm.trans hw) (by simp)
  have hhanded : ∀ x ∈ cs, ∀ w, x.2.Hands w → w.isNaN = false := by
    intro x hx w hw
    rw [List.mem_singleton.mp hx] at hw
    obtain rfl : (2 : Float) = w := Option.some.inj (accepted.inj hw)
    decide
  exact ⟨hs, hsourced, hhanded, by decide, (weighedBy_of_reachable hs).2 cs hsourced hstart hhanded⟩

/-- A weight that is no number is stored, and then what leaves the node is no number either. -/
theorem not_weighedBy_nan :
    let s := ((Store.empty ⟨true, true⟩).calls ⟨⟨[], fun _ => "", 0⟩, .still 0⟩
      [.createNode ⟨.text "A", [], [], some (.text "a")⟩,
        .createRelationship ⟨.text "T", "a", "a", [], .float (0 / 0), some (.text "r")⟩]).1
    Reachable s ∧ s.relationships.keys = ["r"] ∧ ¬ s.WeighedBy (0 < ·)
      ∧ ∀ u, (s.outWeight [] u).isNaN = true := by
  intro s
  refine ⟨(Reachable.empty _).calls _ (by simp [Call.imported?]), by decide, ?_, by decide +kernel⟩
  intro h
  have hpos := h.followed []
  exact absurd hpos (by decide +kernel)

end Store

end PropertyGraph
