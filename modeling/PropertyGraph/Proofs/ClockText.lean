import Mathlib.Algebra.Group.Nat.Defs
import PropertyGraph.Proofs.Calendar
import PropertyGraph.Proofs.JsonToken
import PropertyGraph.Proofs.Stored

/-!
# Date-times that have been written

The written form of a date-time is read as that date-time: `Writable.readsBack`. This is so for the
date-times of the calendar whose offset, if any, is of whole minutes and less than a day, and each
part of the text is read by its own reader, whatever comes after it.
-/

namespace PropertyGraph

open Decimal

/-- The bounds of the parts of a date. -/
theorem CivilDate.isValid_bounds {d : CivilDate} (h : d.isValid = true) :
    0 ≤ d.year ∧ d.year ≤ 9999 ∧ d.month < 100 ∧ d.day < 100 := by
  have hdays : daysInMonth d.year d.month ≤ 31 := by
    unfold daysInMonth
    split
    · split <;> decide
    · split <;> decide
  unfold isValid at h
  simp only [Bool.and_eq_true, decide_eq_true_eq] at h
  omega

namespace DateTime

/-! ## Digits of a fixed width -/

theorem padded_succ {w : Nat} (hw : 0 < w) (n : Nat) :
    padded (w + 1) n = padded w (n / 10) ++ [Nat.digitChar (n % 10)] := by
  unfold padded
  dsimp only
  by_cases hn : n < 10
  · have hzero : n / 10 = 0 := by omega
    have hmod : n % 10 = n := by omega
    obtain ⟨k, rfl⟩ := Nat.exists_eq_succ_of_ne_zero (Nat.pos_iff_ne_zero.mp hw)
    rw [hzero, hmod, Nat.toDigits_of_lt_base hn, Nat.toDigits_of_lt_base (by decide : 0 < 10)]
    show List.replicate (k + 1) '0' ++ _ = (List.replicate k '0' ++ ['0']) ++ _
    rw [List.replicate_succ']
  · rw [Nat.toDigits_of_base_le (by decide) (by omega), List.length_append, List.length_singleton,
      Nat.add_sub_add_right, List.append_assoc]

theorem readTwo_digits {a b : Nat} (ha : a < 10) (hb : b < 10) (s : List Char) :
    readTwo (Nat.digitChar a :: Nat.digitChar b :: s) = some (a * 10 + b, s) := by
  rw [readTwo, Json.asciiDigit?_digitChar a ha, Json.asciiDigit?_digitChar b hb]
  rfl

theorem padded_two {n : Nat} (h : n < 100) :
    padded 2 n = [Nat.digitChar (n / 10), Nat.digitChar (n % 10)] := by
  rw [padded_succ (by decide)]
  unfold padded
  rw [Nat.toDigits_of_lt_base (by omega)]
  rfl

theorem readTwo_padded {n : Nat} (h : n < 100) (s : List Char) :
    readTwo (padded 2 n ++ s) = some (n, s) := by
  rw [padded_two h]
  show readTwo (_ :: _ :: s) = _
  rw [readTwo_digits (by omega) (by omega)]
  congr 2
  omega

theorem padded_four (n : Nat) : padded 4 n = padded 2 (n / 100) ++ padded 2 (n % 100) := by
  have htens : n / 10 % 10 = n % 100 / 10 := by omega
  have hones : n % 10 = n % 100 % 10 := by omega
  rw [padded_succ (by decide), padded_succ (by decide), Nat.div_div_eq_div_mul,
    padded_two (n := n % 100) (by omega), htens, hones, List.append_assoc]
  rfl

/-- The digits of a fixed width are as many digits, and denote the number. -/
theorem splitDigits_padded (w : Nat) {n : Nat} (h : n < 10 ^ (w + 1)) :
    ∃ ds, splitDigits (padded (w + 1) n) = (ds, []) ∧ ds.length = w + 1 ∧ ofDigits ds = n := by
  induction w generalizing n with
  | zero =>
    have hn : n < 10 := by omega
    have hone : padded 1 n = [Nat.digitChar n] := by
      unfold padded
      rw [Nat.toDigits_of_lt_base hn]
      rfl
    refine ⟨[n], ?_, rfl, by simp [ofDigits]⟩
    rw [hone, splitDigits, Json.asciiDigit?_digitChar n hn]
    rfl
  | succ w ih =>
    have hquot : n / 10 < 10 ^ (w + 1) := by
      rw [Nat.div_lt_iff_lt_mul (by decide)]
      exact h
    obtain ⟨ds, hsplit, hlength, hvalue⟩ := ih hquot
    refine ⟨ds ++ [n % 10], ?_, ?_, ?_⟩
    · rw [padded_succ (Nat.succ_pos w)]
      exact Json.splitDigits_concat (Json.asciiDigit?_digitChar _ (by omega)) hsplit
    · rw [List.length_append, hlength]
      rfl
    · rw [Json.ofDigits_concat, hvalue]
      omega

/-! ## Dates and offsets -/

theorem dropChar?_cons {p : Char → Bool} {c : Char} (h : p c = true) (s : List Char) :
    dropChar? p (c :: s) = some s :=
  if_pos h

/-- A date that exists is read from its digits. -/
theorem readDate_digits {d : CivilDate} (h : d.isValid = true) (s : List Char) :
    readDate (padded 4 d.year.toNat
        ++ ('-' :: (padded 2 d.month ++ ('-' :: (padded 2 d.day ++ s)))))
      = some (d, s) := by
  obtain ⟨hlo, hhi, hmonth, hday⟩ := CivilDate.isValid_bounds h
  have hyear : ((d.year.toNat / 100 * 100 + d.year.toNat % 100 : Nat) : Int) = d.year := by omega
  unfold readDate
  rw [padded_four, List.append_assoc, readTwo_padded (by omega)]
  simp only [Option.bind_eq_bind, Option.bind_some]
  rw [readTwo_padded (by omega)]
  simp only [Option.bind_some]
  rw [dropChar?_cons (by rfl), Option.bind_some, readTwo_padded (by omega)]
  simp only [Option.bind_some]
  rw [dropChar?_cons (by rfl), Option.bind_some, readTwo_padded (by omega)]
  simp only [Option.bind_some]
  rw [hyear, if_pos h]

/-- What follows the time of day in a text: nothing, or an offset. -/
def writtenOffset : Option Int → List Char
  | none => []
  | some 0 => ['Z']
  | some seconds => writeOffset seconds

theorem readOffset_sign (negative : Bool) (hours minutes : Nat) (hh : hours < 24)
    (hm : minutes < 60) :
    readOffset ((if negative then '-' else '+') :: (padded 2 hours ++ (':' :: padded 2 minutes)))
      = some (some (if negative then -((hours : Int) * 3600 + minutes * 60)
          else hours * 3600 + minutes * 60)) := by
  have hhours := readTwo_padded (n := hours) (by omega) (':' :: padded 2 minutes)
  have hminutes := readTwo_padded (n := minutes) (by omega) []
  have hcolon : dropChar? (· == ':') (':' :: padded 2 minutes) = some (padded 2 minutes) :=
    dropChar?_cons rfl _
  have hbounds : ¬ (24 ≤ hours ∨ 60 ≤ minutes) := by omega
  have hne : padded 2 hours ++ (':' :: padded 2 minutes) ≠ [] := by simp
  rw [List.append_nil] at hminutes
  rw [readOffset]
  · cases negative <;> simp [hhours, hminutes, hcolon, hbounds]
  · exact fun _ h => hne h
  · exact fun _ h => hne h

/-- An offset of whole minutes is read as itself. -/
theorem readOffset_writtenOffset {offset : Option Int}
    (h : ∀ s, offset = some s → s % 60 = 0 ∧ s.natAbs < 86400) :
    readOffset (writtenOffset offset) = some offset := by
  unfold writtenOffset
  split
  · rfl
  · rfl
  · rename_i seconds hne
    obtain ⟨hwhole, hlt⟩ := h seconds rfl
    have hread := readOffset_sign (decide (seconds < 0)) (seconds.natAbs / 60 / 60)
      (seconds.natAbs / 60 % 60) (by omega) (by omega)
    simp only [decide_eq_true_eq] at hread
    unfold writeOffset
    dsimp only
    rw [List.cons_append, hread]
    congr 2
    split <;> omega

/-- What ends a text does not go on with the time of day. -/
theorem head_writtenOffset {offset : Option Int} {c : Char}
    (h : (writtenOffset offset).head? = some c) : c = 'Z' ∨ c = '+' ∨ c = '-' := by
  unfold writtenOffset at h
  split at h
  · exact absurd h (by simp)
  · left
    exact (Option.some.inj h).symm
  · right
    unfold writeOffset at h
    obtain rfl := Option.some.inj h
    split
    · exact Or.inr rfl
    · exact Or.inl rfl

/-! ## Times of day -/

/-- Seconds without a fraction end where the text does not go on with a point. -/
theorem readSeconds_whole {seconds : Nat} (h : seconds < 60) {rest : List Char}
    (hrest : ∀ c, rest.head? = some c → (c == '.' || c == ',') = false) :
    readSeconds (':' :: (padded 2 seconds ++ rest)) = some (seconds * 1000000, rest) := by
  rw [readSeconds, readTwo_padded (by omega)]
  simp only [Option.bind_eq_bind, Option.bind_some]
  rw [if_neg (by omega)]
  cases rest with
  | nil => rfl
  | cons c r =>
    dsimp only
    rw [hrest c rfl]
    rfl

theorem readMicros_padded {n : Nat} (h : n < 1000000) {rest : List Char}
    (hrest : ∀ c, rest.head? = some c → asciiDigit? c = none) :
    readMicros (padded 6 n ++ rest) = some (n, rest) := by
  obtain ⟨ds, hsplit, hlength, hvalue⟩ := splitDigits_padded 5 h
  have happ : splitDigits (padded 6 n ++ rest) = (ds, rest) := by
    rw [Json.splitDigits_append_of_head hrest, hsplit, List.nil_append]
  have htake : (ds ++ List.replicate 6 0).take 6 = ds := List.take_left' hlength
  unfold readMicros
  rw [happ]
  cases ds with
  | nil => exact absurd hlength (by decide)
  | cons d ds =>
    dsimp only
    rw [htake, hvalue]

theorem readSeconds_fraction {seconds micros : Nat} (hs : seconds < 60) (hm : micros < 1000000)
    {rest : List Char} (hrest : ∀ c, rest.head? = some c → asciiDigit? c = none) :
    readSeconds (':' :: (padded 2 seconds ++ ('.' :: (padded 6 micros ++ rest))))
      = some (seconds * 1000000 + micros, rest) := by
  have hpoint : ('.' == '.' || '.' == ',') = true := rfl
  rw [readSeconds, readTwo_padded (by omega)]
  simp only [Option.bind_eq_bind, Option.bind_some]
  rw [if_neg (by omega), if_pos hpoint, readMicros_padded hm hrest]
  rfl

/-- The seconds of a time of day, with six places after them if they are not whole. -/
def writtenSeconds (seconds micros : Nat) : List Char :=
  ':' :: padded 2 seconds ++ if micros = 0 then [] else '.' :: padded 6 micros

theorem readSeconds_written {seconds micros : Nat} (hs : seconds < 60) (hm : micros < 1000000)
    (offset : Option Int) : readSeconds (writtenSeconds seconds micros ++ writtenOffset offset)
      = some (seconds * 1000000 + micros, writtenOffset offset) := by
  unfold writtenSeconds
  rw [List.cons_append, List.cons_append, List.append_assoc]
  by_cases hwhole : micros = 0
  · have hrest : ∀ c, (writtenOffset offset).head? = some c → (c == '.' || c == ',') = false := by
      intro c hc
      rcases head_writtenOffset hc with rfl | rfl | rfl <;> rfl
    rw [if_pos hwhole, List.nil_append, readSeconds_whole hs hrest, hwhole, Nat.add_zero]
  · have hrest : ∀ c, (writtenOffset offset).head? = some c → asciiDigit? c = none := by
      intro c hc
      rcases head_writtenOffset hc with rfl | rfl | rfl <;> rfl
    rw [if_neg hwhole, List.cons_append, readSeconds_fraction hs hm hrest]

/-- The time of day, as it is written. -/
def writtenTime (micros : Nat) : List Char :=
  padded 2 (micros / 1000000 / 3600) ++ ':' :: padded 2 (micros / 1000000 / 60 % 60)
    ++ writtenSeconds (micros / 1000000 % 60) (micros % 1000000)

/-- A time of day is read from its text. -/
theorem readTime_writtenTime {micros : Nat} (h : micros < 86400000000) (offset : Option Int) :
    readTime (writtenTime micros ++ writtenOffset offset)
      = some (micros, writtenOffset offset) := by
  have hbounds : ¬ (24 ≤ micros / 1000000 / 3600 ∨ 60 ≤ micros / 1000000 / 60 % 60) := by omega
  have hsum : (micros / 1000000 / 3600 * 60 + micros / 1000000 / 60 % 60) * 60000000
      + (micros / 1000000 % 60 * 1000000 + micros % 1000000) = micros := by
    omega
  unfold writtenTime readTime
  rw [List.append_assoc, List.append_assoc, List.cons_append, readTwo_padded (by omega)]
  simp only [Option.bind_eq_bind, Option.bind_some]
  rw [dropChar?_cons (by rfl), Option.bind_some, readTwo_padded (by omega)]
  simp only [Option.bind_some]
  rw [if_neg hbounds, readSeconds_written (by omega) (by omega)]
  simp only [Option.bind_some, Option.pure_def]
  rw [hsum]

/-! ## Date-times -/

theorem toList_written (t : DateTime) : t.written.toList
    = padded 4 (CivilDate.ofDays (t.wall / 86400000000)).year.toNat
      ++ ('-' :: (padded 2 (CivilDate.ofDays (t.wall / 86400000000)).month
        ++ ('-' :: (padded 2 (CivilDate.ofDays (t.wall / 86400000000)).day
          ++ ('T' :: (writtenTime (t.wall % 86400000000).toNat ++ writtenOffset t.offset)))))) := by
  unfold written writeWall writtenTime writtenSeconds
  rw [String.toList_ofList]
  simp only [List.append_assoc, List.cons_append]
  rfl

/-- A date-time whose text tells all of it: one of the calendar, with an offset of whole minutes and
less than a day if it has one. -/
structure Writable (t : DateTime) : Prop where
  first : t.isInCalendar = true
  last : t.wall < (⟨10000, 1, 1⟩ : CivilDate).toDays * 86400000000
  offset : ∀ seconds, t.offset = some seconds → seconds % 60 = 0 ∧ seconds.natAbs < 86400

instance (t : DateTime) : Decidable t.Writable :=
  decidable_of_iff (t.isInCalendar = true
      ∧ t.wall < (⟨10000, 1, 1⟩ : CivilDate).toDays * 86400000000
      ∧ ∀ seconds ∈ t.offset, seconds % 60 = 0 ∧ seconds.natAbs < 86400)
    ⟨fun h => ⟨h.1, h.2.1, h.2.2⟩, fun h => ⟨h.first, h.last, h.offset⟩⟩

theorem Writable.isValid {t : DateTime} (h : t.Writable) :
    (CivilDate.ofDays (t.wall / 86400000000)).isValid = true := by
  have hzero : (⟨0, 1, 1⟩ : CivilDate).toDays = -719528 := by decide
  have hone : (⟨1, 1, 1⟩ : CivilDate).toDays = -719162 := by decide
  have hend : (⟨10000, 1, 1⟩ : CivilDate).toDays = 2932897 := by decide
  have hfirst := of_decide_eq_true h.first
  have hlast := h.last
  rw [hone] at hfirst
  rw [hend] at hlast
  refine CivilDate.isValid_ofDays ?_ ?_
  · rw [hzero]
    omega
  · rw [hend]
    omega

/-- **The text of a date-time is read as the date-time.** -/
theorem Writable.readsBack {t : DateTime} (h : t.Writable) : t.ReadsBack := by
  have hdate : readDate t.written.toList = some (CivilDate.ofDays (t.wall / 86400000000),
      'T' :: (writtenTime (t.wall % 86400000000).toNat ++ writtenOffset t.offset)) := by
    rw [toList_written, readDate_digits h.isValid]
  have hmicros : (t.wall % 86400000000).toNat < 86400000000 := by omega
  have htime := readTime_writtenTime hmicros t.offset
  have hwall : t.wall / 86400000000 * 86400000000 + ((t.wall % 86400000000).toNat : Int)
      = t.wall := by
    omega
  have hcalendar : ofCalendarText? t.written.toList = some t := by
    unfold ofCalendarText?
    rw [hdate]
    simp only [Option.bind_eq_bind, Option.bind_some]
    rw [if_neg (by simp), dropChar?_cons (by rfl)]
    simp only [Option.bind_some]
    rw [htime]
    simp only [Option.bind_some]
    rw [readOffset_writtenOffset h.offset, Option.bind_some, CivilDate.toDays_ofDays, hwall]
    rfl
  have htext : ofText? t.written = some t := by
    unfold ofText?
    rw [hcalendar]
    rfl
  show (ofText? t.written).elim (.fail .malformedDateTime) Document.checkCalendar = _
  rw [htext]
  exact if_pos h.first

example : (⟨1500000, some 19800⟩ : DateTime).written = "1970-01-01T00:00:01.500000+05:30" := by
  decide +kernel

end DateTime

end PropertyGraph
