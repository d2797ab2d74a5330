import Mathlib.Data.List.TakeWhile
import PropertyGraph.Text.Blank

/-!
# What trimming leaves

A trimmed text neither starts nor ends with a blank. Trimming loses blanks only, at the two ends, so
a text that is not blank is not blank when it has been trimmed, and texts that differ only in the
blanks around them are trimmed to the same.
-/

namespace PropertyGraph.Text

/-- A text without blanks at its two ends. -/
structure Trimmed (s : List Char) : Prop where
  /-- The first character, if there is one, is no blank. -/
  first : ∀ c, s.head? = some c → isBlank c = false
  /-- Nor is the last. -/
  last : ∀ c, s.getLast? = some c → isBlank c = false

theorem trimmed_of_forall {s : List Char} (h : ∀ c ∈ s, isBlank c = false) : Trimmed s where
  first := fun c hc => h c (List.mem_of_mem_head? hc)
  last := fun c hc => h c (List.mem_of_mem_getLast? hc)

theorem isBlank_head_dropWhile {s : List Char} {c : Char}
    (h : (s.dropWhile isBlank).head? = some c) : isBlank c = false := by
  have hd := List.head?_dropWhile_not isBlank s
  rw [h] at hd
  exact hd

theorem stripRight_prefix (s : List Char) : stripRight s <+: s := by
  unfold stripRight
  have h := List.reverse_prefix.mpr (List.dropWhile_suffix (l := s.reverse) isBlank)
  rwa [List.reverse_reverse] at h

theorem strip_trimmed (s : List Char) : Trimmed (strip s) where
  first := by
    intro c hc
    -- what is left starts where the text without its leading blanks does
    obtain ⟨t, ht⟩ := stripRight_prefix (stripLeft s)
    have hhead : (stripLeft s).head? = some c := by
      rw [← ht]
      unfold strip at hc
      cases hq : stripRight (stripLeft s) with
      | nil => rw [hq] at hc; simp at hc
      | cons d r => rw [hq] at hc; simpa using hc
    exact isBlank_head_dropWhile hhead
  last := by
    intro c hc
    unfold strip stripRight at hc
    rw [List.getLast?_reverse] at hc
    exact isBlank_head_dropWhile hc

theorem strip_eq_nil_iff {s : List Char} : strip s = [] ↔ ∀ c ∈ s, isBlank c = true := by
  have hleft : stripLeft s = [] ↔ ∀ c ∈ s, isBlank c = true := List.dropWhile_eq_nil_iff
  constructor
  · intro h
    unfold strip stripRight at h
    rw [List.reverse_eq_nil_iff, List.dropWhile_eq_nil_iff] at h
    -- a first character that is no blank would be left
    rw [← hleft]
    cases hq : stripLeft s with
    | nil => rfl
    | cons c r =>
      have hblank : isBlank c = true := h c (by rw [hq]; simp)
      have hnot : isBlank c = false := isBlank_head_dropWhile (s := s) (by
        show (stripLeft s).head? = some c
        rw [hq]; rfl)
      rw [hblank] at hnot
      exact Bool.noConfusion hnot
  · intro h
    unfold strip
    rw [hleft.mpr h]
    rfl

/-- A trimmed text is left as it is. -/
theorem strip_of_trimmed {s : List Char} (h : Trimmed s) : strip s = s := by
  have hleft : stripLeft s = s := by
    cases s with
    | nil => rfl
    | cons c r => exact stripLeft_of_head (h.first c rfl)
  have hright : s.reverse.dropWhile isBlank = s.reverse := by
    cases hq : s.reverse with
    | nil => rfl
    | cons c r =>
      have hlast : isBlank c = false := h.last c (by rw [← List.head?_reverse, hq]; rfl)
      rw [List.dropWhile_cons, hlast]
      rfl
  rw [strip, hleft, stripRight, hright, List.reverse_reverse]

theorem trim_of_trimmed {s : String} (h : Trimmed s.toList) : trim s = s := by
  rw [trim, strip_of_trimmed h, String.ofList_toList]

/-! ## Blanks around a text -/

/-- A text of blanks only. -/
def Blanks (s : List Char) : Prop := ∀ c ∈ s, isBlank c = true

theorem Blanks.nil : Blanks [] := fun _ hc => absurd hc List.not_mem_nil

theorem Blanks.append {a b : List Char} (ha : Blanks a) (hb : Blanks b) : Blanks (a ++ b) :=
  fun c hc => (List.mem_append.mp hc).elim (ha c) (hb c)

theorem stripLeft_append {b : List Char} (h : Blanks b) (s : List Char) :
    stripLeft (b ++ s) = stripLeft s := by
  unfold stripLeft
  rw [List.dropWhile_append_of_pos h]

theorem stripRight_append {b : List Char} (s : List Char) (h : Blanks b) :
    stripRight (s ++ b) = stripRight s := by
  unfold stripRight
  rw [List.reverse_append, List.dropWhile_append_of_pos]
  intro c hc
  exact h c (List.mem_reverse.mp hc)

theorem exists_stripLeft (s : List Char) : ∃ b, Blanks b ∧ s = b ++ stripLeft s :=
  ⟨s.takeWhile isBlank, fun _ hc => List.mem_takeWhile_imp hc,
    (List.takeWhile_append_dropWhile).symm⟩

theorem exists_stripRight (s : List Char) : ∃ b, Blanks b ∧ s = stripRight s ++ b := by
  refine ⟨(s.reverse.takeWhile isBlank).reverse, ?_, ?_⟩
  · intro c hc
    exact List.mem_takeWhile_imp (List.mem_reverse.mp hc)
  · rw [stripRight, ← List.reverse_append, List.takeWhile_append_dropWhile, List.reverse_reverse]

/-- What trimming takes away stands at the two ends. -/
theorem exists_strip (s : List Char) :
    ∃ a b, Blanks a ∧ Blanks b ∧ s = a ++ strip s ++ b := by
  obtain ⟨a, ha, hs⟩ := exists_stripLeft s
  obtain ⟨b, hb, hr⟩ := exists_stripRight (stripLeft s)
  refine ⟨a, b, ha, hb, ?_⟩
  rw [strip, List.append_assoc, ← hr, ← hs]

theorem stripLeft_of_blanks {s : List Char} (h : Blanks s) : stripLeft s = [] :=
  List.dropWhile_eq_nil_iff.mpr h

/-- Blanks around a text do not count. -/
theorem strip_append {a b : List Char} (ha : Blanks a) (s : List Char) (hb : Blanks b) :
    strip (a ++ s ++ b) = strip s := by
  unfold strip
  rw [List.append_assoc, stripLeft_append ha]
  obtain ⟨l, hl, hs⟩ := exists_stripLeft s
  rw [hs, List.append_assoc, stripLeft_append hl, stripLeft_append hl, stripLeft_stripLeft]
  cases hq : stripLeft s with
  | nil => rw [List.nil_append, stripLeft_of_blanks hb]
  | cons c r =>
    have hc : isBlank c = false :=
      isBlank_head_dropWhile (s := s) (by show (stripLeft s).head? = _; rw [hq]; rfl)
    rw [List.cons_append, stripLeft_of_head hc, ← List.cons_append, stripRight_append _ hb]

/-! ## Blank texts -/

theorem isBlankText_eq_true_iff {s : String} :
    isBlankText s = true ↔ ∀ c ∈ s.toList, isBlank c = true := by
  unfold isBlankText
  rw [List.all_eq_true]

/-- A text that is not blank is not blank when it has been trimmed. -/
theorem isBlankText_trim {s : String} (h : isBlankText s = false) :
    isBlankText (trim s) = false := by
  rw [← Bool.not_eq_true, isBlankText_eq_true_iff] at h ⊢
  rw [toList_trim]
  intro hall
  cases hq : strip s.toList with
  | nil => exact h (strip_eq_nil_iff.mp hq)
  | cons c r =>
    have hnot := (strip_trimmed s.toList).first c (by rw [hq]; rfl)
    rw [hall c (by rw [hq]; simp)] at hnot
    exact Bool.noConfusion hnot

end PropertyGraph.Text
