import Mathlib.Data.List.Basic
import PropertyGraph.Json.Reader
import PropertyGraph.Json.Writer

/-!
# Tokens of JSON read back

A text is written character by character: each has a short escape, or stands for itself, or has one
or two escapes of its code units. So the code units that are read are those of the characters, and
joined in pairs they are the characters.
-/

namespace PropertyGraph.Json

open Text Decimal

/-! ## Code units -/

theorem hexValue?_hexDigit : ∀ n < 16, hexValue? (hexDigit n) = some n := by decide

/-- The escape of a code unit is read as that unit. -/
theorem readUnits_unitEscape {n : Nat} (h : n < 0x10000) (s : List Char) :
    readUnits (unitEscape n ++ s) = (readUnits s).map fun p => (n :: p.1, p.2) := by
  have hunit : unit? (hexDigit (n / 4096 % 16)) (hexDigit (n / 256 % 16)) (hexDigit (n / 16 % 16))
      (hexDigit (n % 16)) = some n := by
    unfold unit?
    rw [hexValue?_hexDigit _ (by omega), hexValue?_hexDigit _ (by omega),
      hexValue?_hexDigit _ (by omega), hexValue?_hexDigit _ (by omega)]
    simp only [Option.bind_eq_bind, Option.bind_some, Option.pure_def, Option.some.injEq]
    omega
  have hdigits : unitEscape n = ['\\', 'u', hexDigit (n / 4096 % 16), hexDigit (n / 256 % 16),
      hexDigit (n / 16 % 16), hexDigit (n % 16)] := by
    simp [unitEscape, hexDigits, Nat.div_div_eq_div_mul]
  rw [hdigits]
  show readUnits ('\\' :: 'u' :: _ :: _ :: _ :: _ :: s) = _
  rw [readUnits, hunit]
  cases readUnits s <;> rfl

/-- The code units of a character. -/
def unitsOf (c : Char) : List Nat :=
  if c.toNat < 0x10000 then [c.toNat]
  else [0xD800 + (c.toNat - 0x10000) / 0x400, 0xDC00 + (c.toNat - 0x10000) % 0x400]

theorem toNat_lt (c : Char) : c.toNat < 0x110000 := by
  rcases c.valid with h | ⟨-, h⟩
  · exact Nat.lt_trans h (by decide)
  · exact h

/-- No character is one half of a pair. -/
theorem not_half (c : Char) : isHigh c.toNat = false ∧ isLow c.toNat = false := by
  have hval : c.toNat = c.val.toNat := rfl
  rcases c.valid with h | ⟨h, -⟩ <;> simp [isHigh, isLow] <;> omega

theorem readUnits_shortEscape {c e : Char} (he : e ≠ 'u') (h : shortEscape? e = some c)
    (s : List Char) :
    readUnits ('\\' :: e :: s) = (readUnits s).map fun p => (c.toNat :: p.1, p.2) := by
  rw [readUnits, h]
  · cases readUnits s <;> rfl
  · rintro a b c d s rfl rfl
    exact he rfl

theorem readUnits_plain {c : Char} (hquote : c ≠ '"') (hslash : c ≠ '\\') (hc : ¬ c.toNat < 32)
    (s : List Char) :
    readUnits (c :: s) = (readUnits s).map fun p => (c.toNat :: p.1, p.2) := by
  rw [readUnits, if_neg hc]
  · cases readUnits s <;> rfl
  · exact fun h => hquote h
  · rintro a b c d s rfl -
    exact hslash rfl
  · rintro e s rfl -
    exact hslash rfl

/-- A written character is read as its code units. -/
theorem readUnits_escapeChar (c : Char) (s : List Char) :
    readUnits (escapeChar c ++ s) = (readUnits s).map fun p => (unitsOf c ++ p.1, p.2) := by
  have hshort : ∀ {d e : Char}, d.toNat < 0x10000 → e ≠ 'u' → shortEscape? e = some d → c = d →
      readUnits (['\\', e] ++ s) = (readUnits s).map fun p => (unitsOf c ++ p.1, p.2) := by
    rintro d e hd he h rfl
    rw [unitsOf, if_pos hd]
    exact readUnits_shortEscape he h s
  unfold escapeChar
  simp only [beq_iff_eq]
  -- in the order in which the writer looks for an escape
  by_cases h1 : c = '"'
  · rw [if_pos h1]
    exact hshort (by decide) (by decide) rfl h1
  by_cases h2 : c = '\\'
  · rw [if_neg h1, if_pos h2]
    exact hshort (by decide) (by decide) rfl h2
  rw [if_neg h1, if_neg h2]
  by_cases h3 : c = '\n'
  · rw [if_pos h3]
    exact hshort (by decide) (by decide) rfl h3
  by_cases h4 : c = '\r'
  · rw [if_neg h3, if_pos h4]
    exact hshort (by decide) (by decide) rfl h4
  by_cases h5 : c = '\t'
  · rw [if_neg h3, if_neg h4, if_pos h5]
    exact hshort (by decide) (by decide) rfl h5
  rw [if_neg h3, if_neg h4, if_neg h5]
  by_cases h6 : c.toNat = 12
  · rw [if_pos h6]
    exact hshort (d := '\x0c') (by decide) (by decide) rfl (Char.toNat_inj.mp h6)
  by_cases h7 : c.toNat = 8
  · rw [if_neg h6, if_pos h7]
    exact hshort (d := '\x08') (by decide) (by decide) rfl (Char.toNat_inj.mp h7)
  rw [if_neg h6, if_neg h7]
  by_cases hplain : (decide (32 ≤ c.toNat) && decide (c.toNat < 127)) = true
  · rw [if_pos hplain]
    simp only [Bool.and_eq_true, decide_eq_true_eq] at hplain
    rw [unitsOf, if_pos (by omega)]
    exact readUnits_plain h1 h2 (by omega) s
  rw [if_neg hplain]
  by_cases hone : c.toNat < 0x10000
  · rw [if_pos hone, unitsOf, if_pos hone]
    exact readUnits_unitEscape hone s
  · have hc := toNat_lt c
    rw [if_neg hone, unitsOf, if_neg hone, List.append_assoc, readUnits_unitEscape (by omega),
      readUnits_unitEscape (by omega), Option.map_map]
    rfl

theorem readUnits_flatMap (cs rest : List Char) :
    readUnits (cs.flatMap escapeChar ++ '"' :: rest) = some (cs.flatMap unitsOf, rest) := by
  induction cs with
  | nil => rfl
  | cons c cs ih =>
    rw [List.flatMap_cons, List.append_assoc, readUnits_escapeChar, ih]
    rfl

/-- Joined in pairs, the code units of characters are the characters. -/
theorem joinPairs_flatMap (cs : List Char) : joinPairs (cs.flatMap unitsOf) = cs := by
  induction cs with
  | nil => rfl
  | cons c cs ih =>
    obtain ⟨hhigh, hlow⟩ := not_half c
    rw [List.flatMap_cons]
    by_cases hone : c.toNat < 0x10000
    · have hunit : unitChar c.toNat = c := by
        rw [unitChar, hhigh, hlow]
        exact Char.ofNat_toNat c
      rw [unitsOf, if_pos hone, List.singleton_append]
      cases hq : cs.flatMap unitsOf with
      | nil =>
        rw [hq] at ih
        rw [joinPairs, hunit, ← ih]
        rfl
      | cons m units =>
        rw [hq] at ih
        rw [joinPairs, hhigh, Bool.false_and, if_neg Bool.false_ne_true, hunit, ih]
    · have hc := toNat_lt c
      have hpair : (isHigh (0xD800 + (c.toNat - 0x10000) / 0x400)
          && isLow (0xDC00 + (c.toNat - 0x10000) % 0x400)) = true := by
        simp [isHigh, isLow]
        omega
      rw [unitsOf, if_neg hone]
      show joinPairs (_ :: _ :: cs.flatMap unitsOf) = c :: cs
      rw [joinPairs, if_pos hpair, ih]
      have hnat : 0x10000 + (0xD800 + (c.toNat - 0x10000) / 0x400 - 0xD800) * 0x400
          + (0xDC00 + (c.toNat - 0x10000) % 0x400 - 0xDC00) = c.toNat := by
        omega
      rw [hnat, Char.ofNat_toNat]

/-- A written text is read as that text. -/
theorem readText_writeText (t : String) (rest : List Char) :
    readText (t.toList.flatMap escapeChar ++ '"' :: rest) = some (t, rest) := by
  unfold readText
  rw [readUnits_flatMap, Option.map_some]
  dsimp only
  rw [joinPairs_flatMap, String.ofList_toList]

theorem toList_writeText (t : String) (rest : List Char) :
    (writeText t).toList ++ rest = '"' :: (t.toList.flatMap escapeChar ++ '"' :: rest) := by
  simp [writeText]

/-! ## What follows a token -/

/-- What can follow a value: nothing, or what separates or ends the parts of a list or a map. -/
def Stops (rest : List Char) : Prop := ∀ c, rest.head? = some c → c = ',' ∨ c = ']' ∨ c = '\x7d'

theorem Stops.nil : Stops [] := fun _ h => absurd h (by simp)

/-- The digits at the front of a text end where no digit follows. -/
theorem splitDigits_append_of_head {rest : List Char}
    (h : ∀ c, rest.head? = some c → asciiDigit? c = none) (s : List Char) :
    splitDigits (s ++ rest) = ((splitDigits s).1, (splitDigits s).2 ++ rest) := by
  induction s with
  | nil =>
    cases rest with
    | nil => rfl
    | cons c rest =>
      show splitDigits (c :: rest) = ([], c :: rest)
      rw [splitDigits, h c rfl]
  | cons c s ih =>
    rw [List.cons_append, splitDigits, splitDigits]
    cases asciiDigit? c with
    | none => rfl
    | some d => rw [ih]

theorem splitDigits_append {rest : List Char} (h : Stops rest) (s : List Char) :
    splitDigits (s ++ rest) = ((splitDigits s).1, (splitDigits s).2 ++ rest) := by
  refine splitDigits_append_of_head (fun c hc => ?_) s
  rcases h c hc with rfl | rfl | rfl <;> decide

theorem readOnes_append {rest : List Char} (h : Stops rest) (s : List Char) :
    readOnes (s ++ rest) = (readOnes s).map fun p => (p.1, p.2 ++ rest) := by
  unfold readOnes
  rw [splitDigits_append h]
  cases s with
  | nil => rfl
  | cons c s =>
    cases hq : splitDigits (c :: s) with
    | mk ds r =>
      match ds with
      | [] => rfl
      | 0 :: ds => rfl
      | (d + 1) :: ds => rfl

theorem readFraction_point (s : List Char) : readFraction ('.' :: s)
    = if (splitDigits s).1 = [] then none else some (splitDigits s) := by
  unfold readFraction
  split
  · rename_i heq
    obtain ⟨-, rfl⟩ := List.cons.inj heq
    cases splitDigits s with
    | mk ds r => cases ds <;> rfl
  · rename_i hno
    exact absurd rfl (hno s)

theorem readFraction_append {rest : List Char} (h : Stops rest) (s : List Char) :
    readFraction (s ++ rest) = (readFraction s).map fun p => (p.1, p.2 ++ rest) := by
  have hnone : ∀ {c : Char} {r : List Char}, c ≠ '.' → readFraction (c :: r) = none := by
    intro c r hc
    unfold readFraction
    split
    · rename_i heq
      exact absurd (List.cons.inj heq).1 hc
    · rfl
  cases s with
  | nil =>
    cases rest with
    | nil => rfl
    | cons c rest =>
      refine hnone ?_
      rcases h c rfl with rfl | rfl | rfl <;> decide
  | cons c s =>
    by_cases hc : c = '.'
    · rw [hc, List.cons_append, readFraction_point, readFraction_point, splitDigits_append h]
      cases splitDigits s with
      | mk ds r => cases ds <;> rfl
    · rw [List.cons_append, hnone hc, hnone hc]
      rfl

theorem splitSign_append {rest : List Char} (h : Stops rest) (s : List Char) :
    splitSign (s ++ rest) = ((splitSign s).1, (splitSign s).2 ++ rest) := by
  cases s with
  | nil =>
    cases rest with
    | nil => rfl
    | cons c rest => rcases h c rfl with rfl | rfl | rfl <;> rfl
  | cons c s =>
    by_cases hminus : c = '-'
    · rw [hminus]
      rfl
    by_cases hplus : c = '+'
    · rw [hplus]
      rfl
    have hnone : ∀ r, splitSign (c :: r) = (false, c :: r) := by
      intro r
      unfold splitSign
      split
      · rename_i heq
        exact absurd (List.cons.inj heq).1 hminus
      · rename_i heq
        exact absurd (List.cons.inj heq).1 hplus
      · rfl
    rw [List.cons_append, hnone, hnone]
    rfl

theorem readExponent_append {rest : List Char} (h : Stops rest) (s : List Char) :
    readExponent (s ++ rest) = (readExponent s).map fun p => (p.1, p.2 ++ rest) := by
  cases s with
  | nil =>
    cases rest with
    | nil => rfl
    | cons c rest => rcases h c rfl with rfl | rfl | rfl <;> rfl
  | cons c s =>
    unfold readExponent
    rw [List.cons_append]
    dsimp only
    by_cases hc : (c == 'e' || c == 'E') = true
    · rw [if_pos hc, if_pos hc, splitSign_append h]
      dsimp only
      rw [splitDigits_append h]
      cases splitDigits (splitSign s).2 with
      | mk ds r => cases ds <;> rfl
    · rw [if_neg hc, if_neg hc]
      rfl

/-- A number without its sign, and what follows it. -/
def readMagnitude (negative : Bool) (s : List Char) : Option (Scalar × List Char) := do
  let (ones, rest) ← readOnes s
  let fraction := readFraction rest
  let rest := (fraction.map Prod.snd).getD rest
  let exponent := readExponent rest
  let rest := (exponent.map Prod.snd).getD rest
  if fraction.isNone && exponent.isNone then
    let n ← (integer ones).toOption
    return (.int (if negative then -(n : Int) else n), rest)
  else
    let places := (fraction.map Prod.fst).getD []
    let d : Decimal := ⟨ofDigits (ones ++ places),
      (exponent.map Prod.fst).getD 0 - (places.length : Int)⟩
    return (.float (withSign negative d.toFloat), rest)

theorem readNumber_minus (s : List Char) : readNumber ('-' :: s) = readMagnitude true s := rfl

theorem readNumber_of_ne {s : List Char} (h : s.head? ≠ some '-') :
    readNumber s = readMagnitude false s := by
  cases s with
  | nil => rfl
  | cons c r =>
    have hc : c ≠ '-' := fun hc => h (congrArg some hc)
    unfold readNumber
    split
    rename_i heq
    split at heq
    · rename_i heq'
      exact absurd (List.cons.inj heq').1 hc
    · obtain ⟨rfl, rfl⟩ := Prod.mk.inj heq
      rfl

theorem readMagnitude_append {rest : List Char} (h : Stops rest) (negative : Bool)
    (s : List Char) :
    readMagnitude negative (s ++ rest)
      = (readMagnitude negative s).map fun p => (p.1, p.2 ++ rest) := by
  unfold readMagnitude
  rw [readOnes_append h]
  cases readOnes s with
  | none => rfl
  | some p =>
    obtain ⟨ones, r⟩ := p
    simp only [Option.map_some, Option.bind_eq_bind, Option.bind_some]
    rw [readFraction_append h]
    cases readFraction r with
    | none =>
      simp only [Option.map_none, Option.getD_none]
      rw [readExponent_append h]
      cases readExponent r with
      | none => cases (integer ones).toOption <;> rfl
      | some e => rfl
    | some q =>
      simp only [Option.map_some, Option.getD_some]
      rw [readExponent_append h]
      cases readExponent q.2 <;> rfl

theorem readNumber_append {rest : List Char} (h : Stops rest) (s : List Char) :
    readNumber (s ++ rest) = (readNumber s).map fun p => (p.1, p.2 ++ rest) := by
  have hplain : ∀ {s : List Char}, s.head? ≠ some '-' → (s ++ rest).head? ≠ some '-' →
      readNumber (s ++ rest) = (readNumber s).map fun p => (p.1, p.2 ++ rest) := by
    intro s hs hsr
    rw [readNumber_of_ne hs, readNumber_of_ne hsr, readMagnitude_append h]
  cases s with
  | nil =>
    refine hplain (by simp) fun hminus => ?_
    rcases h _ hminus with hc | hc | hc <;> exact absurd hc (by decide)
  | cons c s =>
    by_cases hc : c = '-'
    · rw [hc, List.cons_append, readNumber_minus, readNumber_minus, readMagnitude_append h]
    · exact hplain (by simpa using hc) (by simpa using hc)

/-- No word holds what can follow a value. -/
theorem dropWord?_append {rest : List Char} (h : Stops rest) {w : List Char}
    (hw : ∀ c ∈ w, c ≠ ',' ∧ c ≠ ']' ∧ c ≠ '\x7d') (s : List Char) :
    dropWord? w (s ++ rest) = (dropWord? w s).map (· ++ rest) := by
  induction w generalizing s with
  | nil => rfl
  | cons c w ih =>
    cases s with
    | nil =>
      cases rest with
      | nil => rfl
      | cons d rest =>
        have hne : c ≠ d := by
          rintro rfl
          have hc := hw c List.mem_cons_self
          rcases h c rfl with hd | hd | hd
          · exact hc.1 hd
          · exact hc.2.1 hd
          · exact hc.2.2 hd
        show dropWord? (c :: w) (d :: rest) = none
        rw [dropWord?, if_neg hne]
    | cons d s =>
      rw [List.cons_append, dropWord?, dropWord?]
      by_cases hcd : c = d
      · rw [if_pos hcd, if_pos hcd, ih fun x hx => hw x (List.mem_cons_of_mem _ hx)]
      · rw [if_neg hcd, if_neg hcd]
        rfl

theorem readWord_append {rest : List Char} (h : Stops rest) (s : List Char) :
    readWord (s ++ rest) = (readWord s).map fun p => (p.1, p.2 ++ rest) := by
  have hall : ∀ ws : List (String × Scalar),
      (∀ w ∈ ws, ∀ c ∈ w.1.toList, c ≠ ',' ∧ c ≠ ']' ∧ c ≠ '\x7d') →
      (ws.findSome? fun e => (dropWord? e.1.toList (s ++ rest)).map fun r => (e.2, r))
        = (ws.findSome? fun e => (dropWord? e.1.toList s).map fun r => (e.2, r)).map
          fun p => (p.1, p.2 ++ rest) := by
    intro ws hws
    induction ws with
    | nil => rfl
    | cons w ws ih =>
      obtain ⟨w, v⟩ := w
      rw [List.findSome?_cons, List.findSome?_cons]
      dsimp only
      rw [dropWord?_append h (hws (w, v) List.mem_cons_self)]
      cases dropWord? w.toList s with
      | none => exact ih fun x hx => hws x (List.mem_cons_of_mem _ hx)
      | some r => rfl
  have hplain : (words.all fun w => w.1.toList.all fun c => c != ',' && c != ']' && c != '\x7d')
      = true := by decide
  exact hall words (by simpa [and_assoc] using hplain)

/-- A value that is neither a text nor a container, and what follows it. -/
def readPlain (s : List Char) : Option (Scalar × List Char) := (readWord s).or (readNumber s)

/-- What follows a plain value does not change how it is read. -/
theorem readPlain_append {rest : List Char} (h : Stops rest) (s : List Char) :
    readPlain (s ++ rest) = (readPlain s).map fun p => (p.1, p.2 ++ rest) := by
  unfold readPlain
  rw [readWord_append h, readNumber_append h]
  cases readWord s <;> rfl

/-! ## Integers -/

theorem ofDigits_concat (ds : List Nat) (d : Nat) :
    ofDigits (ds ++ [d]) = 10 * ofDigits ds + d := by
  unfold ofDigits
  rw [List.foldl_append]
  rfl

/-- A digit after digits is one of them. -/
theorem splitDigits_concat {s : List Char} {ds : List Nat} {c : Char} {d : Nat}
    (hd : asciiDigit? c = some d) (hs : splitDigits s = (ds, [])) :
    splitDigits (s ++ [c]) = (ds ++ [d], []) := by
  induction s generalizing ds with
  | nil =>
    obtain ⟨rfl, -⟩ := Prod.mk.inj hs
    rw [List.nil_append, splitDigits, hd]
    rfl
  | cons e s ih =>
    rw [splitDigits] at hs
    rw [List.cons_append, splitDigits]
    cases he : asciiDigit? e with
    | none =>
      rw [he] at hs
      exact absurd hs (by simp)
    | some k =>
      rw [he] at hs
      obtain ⟨rfl, hrest⟩ := Prod.mk.inj hs
      dsimp only
      rw [ih (Prod.ext rfl hrest)]
      rfl

theorem asciiDigit?_digitChar : ∀ d < 10, asciiDigit? (Nat.digitChar d) = some d := by
  decide

/-- The digits of a number are as many as it is written with and denote it, and the first is zero
for zero only. -/
theorem splitDigits_toDigits (n : Nat) :
    ∃ d ds, splitDigits (Nat.toDigits 10 n) = (d :: ds, []) ∧ (d :: ds).length = digitCount n
      ∧ ofDigits (d :: ds) = n ∧ (d = 0 → n = 0) := by
  -- the last digit is the remainder, and those before it are the digits of the quotient
  induction n using Nat.strongRecOn with
  | ind n ih =>
    by_cases hn : n < 10
    · refine ⟨n, [], ?_, ?_, ?_, id⟩
      · rw [Nat.toDigits_of_lt_base hn, splitDigits, asciiDigit?_digitChar n hn]
        rfl
      · rw [digitCount, Nat.toDigits_of_lt_base hn]
        rfl
      · simp [ofDigits]
    · obtain ⟨d, ds, hsplit, hcount, hval, hzero⟩ := ih (n / 10) (by omega)
      have hdigits : Nat.toDigits 10 n
          = Nat.toDigits 10 (n / 10) ++ [Nat.digitChar (n % 10)] :=
        Nat.toDigits_of_base_le (by decide) (by omega)
      refine ⟨d, ds ++ [n % 10], ?_, ?_, ?_, ?_⟩
      · rw [hdigits]
        exact splitDigits_concat (asciiDigit?_digitChar _ (by omega)) hsplit
      · rw [digitCount, hdigits, List.length_append, ← digitCount, ← hcount, ← List.cons_append,
          List.length_append]
        rfl
      · rw [← List.cons_append, ofDigits_concat, hval]
        omega
      · intro hd
        have := hzero hd
        omega

/-- The digits before the point of a written number are all its digits. -/
theorem readOnes_toDigits (n : Nat) : ∃ ones, readOnes (Nat.toDigits 10 n) = some (ones, [])
    ∧ ones.length = digitCount n ∧ ofDigits ones = n := by
  obtain ⟨d, ds, hsplit, hcount, hval, hzero⟩ := splitDigits_toDigits n
  unfold readOnes
  rw [hsplit]
  cases d with
  | zero =>
    obtain rfl := hzero rfl
    exact ⟨[0], rfl, rfl, rfl⟩
  | succ d => exact ⟨_, rfl, hcount, hval⟩

theorem readMagnitude_toDigits (negative : Bool) {n : Nat} (h : digitCount n ≤ digitLimit) :
    readMagnitude negative (Nat.toDigits 10 n)
      = some (.int (if negative then -(n : Int) else n), []) := by
  obtain ⟨ones, hones, hcount, hval⟩ := readOnes_toDigits n
  have hint : integer ones = .ok n := by rw [integer_of_le (by omega), hval]
  unfold readMagnitude
  rw [hones, Option.bind_eq_bind, Option.bind_some]
  dsimp only
  rw [hint]
  rfl

/-- No word starts with a digit, with or without a sign. -/
theorem readWord_of_digit {c : Char} (hc : c.isDigit = true) (s : List Char) :
    readWord (c :: s) = none ∧ readWord ('-' :: c :: s) = none := by
  have hfirst : ∀ {k d : Char} {w : List Char}, k ≠ d → ∀ r, dropWord? (k :: w) (d :: r) = none :=
    fun hkd _ => if_neg hkd
  have hne : ∀ {k : Char}, k.isDigit = false → k ≠ c := by
    rintro k hk rfl
    rw [hc] at hk
    exact Bool.noConfusion hk
  have hnone : ∀ r, (∀ e ∈ words, dropWord? e.1.toList r = none) → readWord r = none := by
    intro r hr
    unfold readWord
    rw [List.findSome?_eq_none_iff]
    intro e he
    dsimp only
    rw [hr e he]
    rfl
  constructor
  · refine hnone _ ?_
    unfold words
    simp only [List.forall_mem_cons, List.not_mem_nil, false_implies, implies_true, and_true]
    exact ⟨hfirst (hne (by decide)) _, hfirst (hne (by decide)) _, hfirst (hne (by decide)) _,
      hfirst (hne (by decide)) _, hfirst (hne (by decide)) _, hfirst (hne (by decide)) _⟩
  · refine hnone _ ?_
    unfold words
    simp only [List.forall_mem_cons, List.not_mem_nil, false_implies, implies_true, and_true]
    exact ⟨hfirst (by decide) _, hfirst (by decide) _, hfirst (by decide) _,
      hfirst (by decide) _, hfirst (by decide) _, hfirst (hne (k := 'I') (by decide)) _⟩

/-- A written integer that does not have too many digits is read as that integer. -/
theorem readPlain_int {n : Int} (h : digitCount n.natAbs ≤ digitLimit) :
    readPlain (toString n).toList = some (.int n, []) := by
  have hhead : ∀ m, ∃ c r, Nat.toDigits 10 m = c :: r ∧ c.isDigit = true := by
    intro m
    obtain ⟨c, r, hq⟩ := List.exists_cons_of_ne_nil (Nat.toDigits_ne_nil (b := 10) (n := m))
    exact ⟨c, r, hq, Nat.isDigit_of_mem_toDigits (b := 10) (n := m) (by decide) (by decide)
      (by rw [hq]; exact List.mem_cons_self)⟩
  rw [Int.toString_eq_repr, Int.repr_eq_if]
  unfold readPlain
  split
  · rename_i hn
    rw [Nat.toList_repr]
    obtain ⟨c, r, hq, hc⟩ := hhead n.toNat
    have hplus : (Nat.toDigits 10 n.toNat).head? ≠ some '-' := by
      rw [hq, List.head?_cons]
      intro heq
      rw [Option.some.inj heq] at hc
      exact absurd hc (by decide)
    have hsize : n.toNat = n.natAbs := by omega
    have hread := readMagnitude_toDigits false (hsize ▸ h)
    rw [readNumber_of_ne hplus, hread, hq, (readWord_of_digit hc r).1]
    simp [Int.toNat_of_nonneg hn]
  · rename_i hn
    rw [String.toList_append, Nat.toList_repr]
    obtain ⟨c, r, hq, hc⟩ := hhead (-n).toNat
    show (readWord ('-' :: Nat.toDigits 10 (-n).toNat)).or
      (readNumber ('-' :: Nat.toDigits 10 (-n).toNat)) = _
    have hsize : (-n).toNat = n.natAbs := by omega
    rw [readNumber_minus, readMagnitude_toDigits true (hsize ▸ h), hq, (readWord_of_digit hc r).2]
    have hneg : ((-n).toNat : Int) = -n := by omega
    simp [hneg]

end PropertyGraph.Json
