import Mathlib.Data.List.Pairwise
import Mathlib.Data.List.Perm.Basic
import Mathlib.Order.Lattice
import PropertyGraph.Analytics.Ranking

/-!
# The order of a ranking

Where scores are linearly ordered, a ranking goes from the highest to the lowest, and items with
equal scores keep the order that they had: `rank_pairwise`. A ranking is then a stable sort. Were
two items with equal scores exchanged, each would come before the other.
-/

namespace PropertyGraph.Analytics

variable {α β : Type} [LinearOrder β] [BEq β] [ReflBEq β] [DecidableLT β]

/-- Of two items of a list one comes first. -/
theorem sublist_or_sublist {l : List α} {a b : α} (ha : a ∈ l) (hb : b ∈ l) (hne : a ≠ b) :
    [a, b].Sublist l ∨ [b, a].Sublist l := by
  induction l with
  | nil => exact absurd ha List.not_mem_nil
  | cons c l ih =>
    rcases List.mem_cons.mp ha with hac | ha'
    · have hb' : b ∈ l := (List.mem_cons.mp hb).resolve_left fun h => hne (hac.trans h.symm)
      rw [hac]
      exact Or.inl ((List.singleton_sublist.mpr hb').cons_cons c)
    · rcases List.mem_cons.mp hb with hbc | hb'
      · rw [hbc]
        exact Or.inr ((List.singleton_sublist.mpr ha').cons_cons c)
      · exact (ih ha' hb').imp (·.cons c) (·.cons c)

/-- And the other does not, unless the list repeats an item. -/
theorem not_sublist_of_sublist {l : List α} (h : l.Nodup) {a b : α} (hne : a ≠ b)
    (hab : [a, b].Sublist l) : ¬ [b, a].Sublist l := by
  intro hba
  induction l with
  | nil => exact absurd hab (by simp)
  | cons c l ih =>
    obtain ⟨hc, hl⟩ := List.nodup_cons.mp h
    cases hab with
    | cons _ hab =>
      cases hba with
      | cons _ hba => exact ih hl hab hba
      | cons_cons _ _ => exact hc (hab.subset (by simp))
    | cons_cons _ hb =>
      cases hba with
      | cons _ hba => exact hc (hba.subset (by simp))
      | cons_cons _ _ => exact hne rfl

/-- **A ranking goes from the highest score to the lowest, and keeps the order of equal ones.** -/
theorem rank_pairwise (score : α → β) (place : α → Nat) {entries : List α}
    (hplace : entries.Pairwise fun a b => place a < place b) :
    (rank score entries).Pairwise fun a b =>
      score b < score a ∨ score a = score b ∧ place a < place b := by
  have htrans : ∀ a b c : α, (!decide (score a < score b)) = true →
      (!decide (score b < score c)) = true → (!decide (score a < score c)) = true := by
    intro a b c hab hbc
    simp only [Bool.not_eq_true', decide_eq_false_iff_not, not_lt] at hab hbc ⊢
    exact hbc.trans hab
  have htotal : ∀ a b : α,
      (!decide (score a < score b) || !decide (score b < score a)) = true := by
    intro a b
    simp only [Bool.or_eq_true, Bool.not_eq_true', decide_eq_false_iff_not, not_lt]
    exact le_total _ _
  have hnodup : (rank score entries).Nodup := by
    refine (rank_perm score entries).nodup_iff.mpr (hplace.imp ?_)
    intro a b hab heq
    rw [heq] at hab
    exact Nat.lt_irrefl _ hab
  rw [List.pairwise_iff_forall_sublist] at hplace ⊢
  intro a b hab
  have hle : ¬ score a < score b := by
    have hsorted := List.pairwise_mergeSort htrans htotal entries
    rw [← rank_eq_mergeSort, List.pairwise_iff_forall_sublist] at hsorted
    simpa using hsorted hab
  rcases lt_or_eq_of_le (not_lt.mp hle) with hlt | heq
  · exact Or.inl hlt
  · -- were they the other way round in the list, the sort would have kept them so
    have hmem := hab.subset
    have ha : a ∈ entries := (rank_perm score entries).mem_iff.mp (hmem List.mem_cons_self)
    have hb : b ∈ entries := (rank_perm score entries).mem_iff.mp (hmem (by simp))
    have hne : a ≠ b := List.rel_of_pairwise_cons (hnodup.sublist hab) List.mem_cons_self
    rcases sublist_or_sublist ha hb hne with hfirst | hfirst
    · exact Or.inr ⟨heq.symm, hplace hfirst⟩
    · have hkept : [b, a].Sublist (rank score entries) := by
        rw [rank_eq_mergeSort]
        refine List.pair_sublist_mergeSort htrans htotal ?_ hfirst
        rw [heq]
        simp
      exact absurd hkept (not_sublist_of_sublist hnodup hne hab)

end PropertyGraph.Analytics
