import PropertyGraph.Text.Blank
import PropertyGraph.Text.Word

/-!
# Classes of characters

No word character is a blank, and neither is a digit of any script. So the end of a name, and of the
blanks after it, is the same for every reading of a line. The tables are compared with the ranges of
the blanks; in ASCII all blanks come before all letters and digits.
-/

namespace PropertyGraph.Text

/-- The ranges of the blanks above ASCII. -/
def blankRanges : List (Nat × Nat) :=
  [(0x85, 0x85), (0xA0, 0xA0), (0x1680, 0x1680), (0x2000, 0x200A), (0x2028, 0x2029),
   (0x202F, 0x202F), (0x205F, 0x205F), (0x3000, 0x3000)]

theorem blank_cases {c : Char} (h : isBlank c = true) :
    c.toNat ≤ 32 ∨ 128 ≤ c.toNat ∧ ∃ b ∈ blankRanges, b.1 ≤ c.toNat ∧ c.toNat ≤ b.2 := by
  unfold isBlank at h
  simp only [Bool.or_eq_true, Bool.and_eq_true, decide_eq_true_eq, beq_iff_eq] at h
  simp only [blankRanges, List.mem_cons, List.not_mem_nil, or_false, exists_eq_or_imp,
    exists_eq_left]
  omega

theorem not_blank_of_ascii {c : Char} (h1 : 32 < c.toNat) (h2 : c.toNat < 128) :
    isBlank c = false := by
  cases hb : isBlank c with
  | false => rfl
  | true => rcases blank_cases hb with h | ⟨h, -⟩ <;> omega

/-- Ranges that lie apart from those of the blanks hold no blank. -/
theorem not_blank_of_apart (ranges : List (Nat × Nat))
    (h : (ranges.all fun r => 32 < r.1 && blankRanges.all fun b => r.2 < b.1 || b.2 < r.1) = true)
    {c : Char} {r : Nat × Nat} (hr : r ∈ ranges) (h1 : r.1 ≤ c.toNat) (h2 : c.toNat ≤ r.2) :
    isBlank c = false := by
  cases hb : isBlank c with
  | false => rfl
  | true =>
    have hapart := List.all_eq_true.mp h r hr
    simp only [Bool.and_eq_true, decide_eq_true_eq, List.all_eq_true, Bool.or_eq_true] at hapart
    rcases blank_cases hb with hlow | ⟨-, b, hbm, hb1, hb2⟩
    · omega
    · have := hapart.2 b hbm
      omega

/-- In ASCII, what is a letter, a digit or the underscore comes after the blanks. -/
theorem lt_toNat_of_ascii_word {c : Char} (h : (c.isAlphanum || c == '_') = true) :
    32 < c.toNat := by
  have hlow : ∀ n ≤ 32, ((Char.ofNat n).isAlphanum || Char.ofNat n == '_') = false := by decide
  refine Nat.lt_of_not_le fun hle => ?_
  have hc := hlow c.toNat hle
  rw [Char.ofNat_toNat, h] at hc
  exact Bool.noConfusion hc

theorem not_blank_of_word {c : Char} (h : isWord c = true) : isBlank c = false := by
  unfold isWord at h
  split at h
  · rename_i hascii
    exact not_blank_of_ascii (lt_toNat_of_ascii_word h) hascii
  · obtain ⟨r, hr, hin⟩ := List.any_eq_true.mp h
    rw [Bool.and_eq_true, decide_eq_true_eq, decide_eq_true_eq] at hin
    exact not_blank_of_apart wordRanges (by decide +kernel) hr hin.1 hin.2

theorem not_blank_of_digit {c : Char} {d : Nat} (h : digitValue? c = some d) :
    isBlank c = false := by
  unfold digitValue? at h
  split at h
  · rename_i hascii
    split at h
    · rename_i hd
      refine not_blank_of_ascii (lt_toNat_of_ascii_word ?_) hascii
      rw [Char.isAlphanum, hd, Bool.or_true, Bool.true_or]
    · exact absurd h (by simp)
  · obtain ⟨r, hr, -⟩ := Option.map_eq_some_iff.mp h
    have hin := List.find?_some hr
    rw [Bool.and_eq_true, decide_eq_true_eq, decide_eq_true_eq] at hin
    exact not_blank_of_apart digitRuns (by decide +kernel) (List.mem_of_find?_eq_some hr) hin.1
      hin.2

end PropertyGraph.Text
