import PropertyGraph.Proofs.Json

/-!
# Texts of one document only

No two documents have the same text: `write_inj`. A written document is not read here, so nothing is
asked of how deep it is or of its keys, and of floats only that different ones have different
numerals.

The induction needs more than that. A written document tells where it ends, so it is told apart from
any other even when text follows both. A text ends with its closing quote, a list and a map with
their brackets, and a plain value where a character comes that no plain value is written with.
-/

namespace PropertyGraph.Json

open Decimal

/-- Documents whose floats are among certain ones. -/
inductive FloatsIn (F : Float → Prop) : Document → Prop where
  | scalar {v : Scalar} (h : ∀ x, v = .float x → F x) : FloatsIn F (.scalar v)
  | list {items : List Document} (h : ∀ d ∈ items, FloatsIn F d) : FloatsIn F (.list items)
  | map {entries : List (String × Document)} (h : ∀ e ∈ entries, FloatsIn F e.2) :
    FloatsIn F (.map entries)

/-- Floats of which no two have the same numeral. -/
def NumeralsDiffer (F : Float → Prop) : Prop :=
  ∀ x y, F x → F y → write (.float x) = write (.float y) → x = y

/-- With two floats there is one pair of numerals to look at. -/
theorem numeralsDiffer_pair {x y : Float} (h : write (.float x) ≠ write (.float y)) :
    NumeralsDiffer fun z => z = x ∨ z = y := by
  rintro a b (rfl | rfl) (rfl | rfl) heq
  · rfl
  · exact absurd heq h
  · exact absurd heq.symm h
  · rfl

/-! ## The characters of numerals -/

/-- The characters that floats are written with. -/
def isFloatChar (c : Char) : Bool := c.isDigit || ".e+-NaInfity".toList.contains c

/-- The characters that only floats are written with: no integer has one of them. -/
def isFloatMark (c : Char) : Bool := ".eNI".toList.contains c

theorem isFloatChar_of_isDigit {c : Char} (h : c.isDigit = true) : isFloatChar c = true := by
  rw [isFloatChar, h, Bool.true_or]

theorem isDigit_of_mem_toDigits {n : Nat} {c : Char} (h : c ∈ Nat.toDigits 10 n) :
    c.isDigit = true :=
  Nat.isDigit_of_mem_toDigits (by decide) (by decide) h

theorem isFloatChar_of_mem_toDigits {n : Nat} {c : Char} (h : c ∈ Nat.toDigits 10 n) :
    isFloatChar c = true :=
  isFloatChar_of_isDigit (isDigit_of_mem_toDigits h)

theorem isFloatChar_of_mem_replicate {n : Nat} {c : Char} (h : c ∈ List.replicate n '0') :
    isFloatChar c = true := by
  rw [List.eq_of_mem_replicate h]
  decide

/-- A text that can be that of a float, and not that of an integer. -/
structure FloatText (s : List Char) : Prop where
  chars : ∀ c ∈ s, isFloatChar c = true
  mark : ∃ c ∈ s, isFloatMark c = true

/-- The characters of a given text are looked at one by one. -/
theorem FloatText.of_check {s : List Char}
    (h : (s.all isFloatChar && s.any isFloatMark) = true) : FloatText s := by
  rw [Bool.and_eq_true, List.all_eq_true, List.any_eq_true] at h
  exact ⟨h.1, h.2⟩

theorem floatText_positional (d : Decimal) : FloatText d.positional := by
  have hdigit : ∀ {c}, c ∈ d.digitChars → isFloatChar c = true := isFloatChar_of_mem_toDigits
  unfold positional
  dsimp only
  -- the point is among the digits, or there are zeros between it and them
  split
  · refine ⟨fun c hc => ?_, '.', by simp, by decide⟩
    simp only [List.cons_append, List.mem_cons, List.mem_append] at hc
    rcases hc with rfl | rfl | hc | hc
    · decide
    · decide
    · exact isFloatChar_of_mem_replicate hc
    · exact hdigit hc
  · split
    · refine ⟨fun c hc => ?_, '.', by simp, by decide⟩
      simp only [List.mem_append, List.mem_cons, List.not_mem_nil, or_false] at hc
      rcases hc with (hc | hc) | rfl | rfl
      · exact hdigit hc
      · exact isFloatChar_of_mem_replicate hc
      · decide
      · decide
    · refine ⟨fun c hc => ?_, '.', by simp, by decide⟩
      rcases List.mem_append.mp hc with hc | hc
      · exact hdigit (List.mem_of_mem_take hc)
      · rcases List.mem_cons.mp hc with rfl | hc
        · decide
        · exact hdigit (List.mem_of_mem_drop hc)

/-- A point after the first digit keeps to the characters of floats. -/
theorem isFloatChar_of_mem_mantissa {ds : List Char} (hall : ∀ c ∈ ds, isFloatChar c = true)
    {c : Char} (h : c ∈ (match ds with
      | [] => []
      | [a] => [a]
      | a :: rest => a :: '.' :: rest)) : isFloatChar c = true := by
  split at h
  · exact absurd h List.not_mem_nil
  · exact hall c h
  · rcases List.mem_cons.mp h with rfl | h
    · exact hall _ List.mem_cons_self
    · rcases List.mem_cons.mp h with rfl | h
      · decide
      · exact hall c (List.mem_cons_of_mem _ h)

theorem floatText_scientific (d : Decimal) : FloatText d.scientific := by
  unfold scientific
  dsimp only
  refine ⟨fun c hc => ?_, 'e', by simp, by decide⟩
  rcases List.mem_append.mp hc with hc | hc
  · rcases List.mem_append.mp hc with hc | hc
    · exact isFloatChar_of_mem_mantissa (fun c => isFloatChar_of_mem_toDigits) hc
    · rcases List.mem_cons.mp hc with rfl | hc
      · decide
      · rw [List.mem_singleton.mp hc]
        split <;> decide
  · split at hc
    · rcases List.mem_cons.mp hc with rfl | hc
      · decide
      · exact isFloatChar_of_mem_toDigits hc
    · exact isFloatChar_of_mem_toDigits hc

theorem floatText_written (d : Decimal) : FloatText d.written := by
  unfold written
  split
  · exact .of_check (by decide)
  · split
    · exact floatText_positional d
    · exact floatText_scientific d

theorem FloatText.minus {s : List Char} (h : FloatText s) : FloatText ('-' :: s) where
  chars := List.forall_mem_cons.mpr ⟨by decide, h.chars⟩
  mark := by
    obtain ⟨c, hc, hm⟩ := h.mark
    exact ⟨c, List.mem_cons_of_mem _ hc, hm⟩

theorem floatText_writeScalar (x : Float) : FloatText (writeScalar (.float x)).toList := by
  show FloatText (render documentNames x).toList
  have hsize : FloatText
      (if x.isInf then documentNames.infinity else String.ofList (shortest x).written).toList := by
    split
    · exact .of_check (by decide)
    · rw [String.toList_ofList]
      exact floatText_written (shortest x)
  unfold render
  dsimp only
  split
  · exact .of_check (by decide)
  · split
    · rw [String.toList_append]
      exact hsize.minus
    · exact hsize

/-- An integer is written with digits and possibly a sign. -/
theorem int_chars (n : Int) : ∀ c ∈ (writeScalar (.int n)).toList, c.isDigit = true ∨ c = '-' := by
  intro c hc
  rw [writeScalar, Int.toString_eq_repr, Int.repr_eq_if] at hc
  split at hc
  · rw [Nat.toList_repr] at hc
    exact Or.inl (isDigit_of_mem_toDigits hc)
  · rw [String.toList_append, Nat.toList_repr] at hc
    rcases List.mem_append.mp hc with hc | hc
    · exact Or.inr (List.mem_singleton.mp hc)
    · exact Or.inl (isDigit_of_mem_toDigits hc)

theorem toDigits_inj {m n : Nat} (h : Nat.toDigits 10 m = Nat.toDigits 10 n) : m = n := by
  obtain ⟨ds, hm, -, hval⟩ := readOnes_toDigits m
  obtain ⟨es, hn, -, hval'⟩ := readOnes_toDigits n
  rw [h, hn, Option.some.injEq, Prod.mk.injEq] at hm
  rw [← hval, ← hval', hm.1]

theorem writeScalar_int_inj {m n : Int} (h : writeScalar (.int m) = writeScalar (.int n)) :
    m = n := by
  have hminus : ∀ {k : Nat} {ds : List Char}, Nat.toDigits 10 k ≠ '-' :: ds := by
    intro k ds hk
    have hdigit := isDigit_of_mem_toDigits (hk ▸ List.mem_cons_self)
    exact absurd hdigit (by decide)
  rw [writeScalar, writeScalar, Int.toString_eq_repr, Int.toString_eq_repr, Int.repr_eq_if,
    Int.repr_eq_if, ← String.toList_inj] at h
  split at h
  · rw [Nat.toList_repr] at h
    split at h
    · have := toDigits_inj (h.trans Nat.toList_repr)
      omega
    · rw [String.toList_append, Nat.toList_repr] at h
      exact absurd h hminus
  · rw [String.toList_append, Nat.toList_repr] at h
    split at h
    · exact absurd (Nat.toList_repr.symm.trans h.symm) hminus
    · rw [String.toList_append, Nat.toList_repr, List.append_cancel_left_eq] at h
      have := toDigits_inj h
      omega

/-- A text with a letter in it is not that of an integer. -/
theorem writeScalar_int_ne {s : String} {c : Char} (hc : c ∈ s.toList)
    (hletter : (!c.isDigit && c != '-') = true) (n : Int) : writeScalar (.int n) ≠ s := by
  rintro rfl
  rcases int_chars n c hc with hdigit | rfl
  · rw [hdigit] at hletter
    exact Bool.noConfusion hletter
  · exact absurd hletter (by decide)

/-! ## Plain values -/

/-- A scalar that is written without quotes. -/
def IsPlain (v : Scalar) : Prop := ∀ t, v ≠ .text t

/-- The characters that plain values are written with are none of these. -/
def isBare (c : Char) : Bool := !(",]\x7d\"[\x7b".toList.contains c)

theorem isBare_of_isFloatChar {c : Char} (h : isFloatChar c = true) : isBare c = true := by
  have hmarks : (",]\x7d\"[\x7b".toList.all fun c => !isFloatChar c) = true := by decide
  by_contra hno
  rw [isBare, Bool.not_eq_true', Bool.not_eq_false, List.contains_iff_mem] at hno
  have hc := List.all_eq_true.mp hmarks c hno
  rw [h] at hc
  exact Bool.noConfusion hc

theorem isFloatChar_of_int {n : Int} {c : Char} (h : c ∈ (writeScalar (.int n)).toList) :
    isFloatChar c = true := by
  rcases int_chars n c h with hc | rfl
  · exact isFloatChar_of_isDigit hc
  · decide

theorem isBare_writeScalar {v : Scalar} (h : IsPlain v) :
    ∀ c ∈ (writeScalar v).toList, isBare c = true := by
  cases v with
  | null => exact List.all_eq_true.mp (by decide)
  | bool b => cases b <;> exact List.all_eq_true.mp (by decide)
  | int n => exact fun c hc => isBare_of_isFloatChar (isFloatChar_of_int hc)
  | float x => exact fun c hc => isBare_of_isFloatChar ((floatText_writeScalar x).chars c hc)
  | text t => exact absurd rfl (h t)

theorem writeScalar_ne_nil {v : Scalar} (h : IsPlain v) : (writeScalar v).toList ≠ [] := by
  cases v with
  | null => decide
  | bool b => cases b <;> decide
  | int n =>
    rw [writeScalar, Int.toString_eq_repr, Int.repr_eq_if]
    split
    · rw [Nat.toList_repr]
      exact Nat.toDigits_ne_nil
    · rw [String.toList_append]
      exact List.append_ne_nil_of_left_ne_nil (by decide) _
  | float x =>
    obtain ⟨c, hc, -⟩ := (floatText_writeScalar x).mark
    exact List.ne_nil_of_mem hc
  | text t => exact absurd rfl (h t)

/-- No other plain value is written like a float. -/
theorem not_floatText {v : Scalar} (h : IsPlain v) (hv : ∀ x, v ≠ .float x) :
    ¬ FloatText (writeScalar v).toList := by
  intro hf
  cases v with
  | null => exact absurd (hf.chars 'u' (by decide)) (by decide)
  | bool b =>
    cases b with
    | true => exact absurd (hf.chars 'u' (by decide)) (by decide)
    | false => exact absurd (hf.chars 'l' (by decide)) (by decide)
  | int n =>
    -- the mark of a float is no digit, nor the sign
    have hmarks : (".eNI".toList.all fun c => !c.isDigit && c != '-') = true := by decide
    obtain ⟨c, hc, hmark⟩ := hf.mark
    have hno := List.all_eq_true.mp hmarks c (List.contains_iff_mem.mp hmark)
    exact writeScalar_int_ne hc hno n rfl
  | float x => exact absurd rfl (hv x)
  | text t => exact absurd rfl (h t)

/-- A plain value that is no float is a word or an integer. -/
theorem word_or_int {v : Scalar} (h : IsPlain v) (hv : ∀ x, v ≠ .float x) :
    (v = .null ∨ v = .bool true ∨ v = .bool false) ∨ ∃ n, v = .int n := by
  cases v with
  | null => exact Or.inl (Or.inl rfl)
  | bool b => cases b <;> simp
  | int n => exact Or.inr ⟨n, rfl⟩
  | float x => exact absurd rfl (hv x)
  | text t => exact absurd rfl (h t)

theorem writeScalar_int_ne_word {v : Scalar} (h : v = .null ∨ v = .bool true ∨ v = .bool false)
    (n : Int) : writeScalar (.int n) ≠ writeScalar v := by
  rcases h with rfl | rfl | rfl
  · exact writeScalar_int_ne (c := 'u') (by decide) (by decide) n
  · exact writeScalar_int_ne (c := 'u') (by decide) (by decide) n
  · exact writeScalar_int_ne (c := 'f') (by decide) (by decide) n

theorem writeScalar_inj_of_not_float {v w : Scalar} (hv : IsPlain v) (hw : IsPlain w)
    (hvx : ∀ x, v ≠ .float x) (hwx : ∀ x, w ≠ .float x) (h : writeScalar v = writeScalar w) :
    v = w := by
  rcases word_or_int hv hvx with hv | ⟨n, rfl⟩
  · rcases word_or_int hw hwx with hw | ⟨m, rfl⟩
    · rcases hv with rfl | rfl | rfl <;> rcases hw with rfl | rfl | rfl <;>
        first | rfl | exact absurd h (by decide)
    · exact absurd h.symm (writeScalar_int_ne_word hv m)
  · rcases word_or_int hw hwx with hw | ⟨m, rfl⟩
    · exact absurd h (writeScalar_int_ne_word hw n)
    · rw [writeScalar_int_inj h]

/-- Words and integers have texts of their own, and so have floats. -/
theorem writeScalar_inj {F : Float → Prop} (hF : NumeralsDiffer F) {v w : Scalar} (hv : IsPlain v)
    (hw : IsPlain w) (hvF : ∀ x, v = .float x → F x) (hwF : ∀ x, w = .float x → F x)
    (h : writeScalar v = writeScalar w) : v = w := by
  by_cases hx : ∃ x, v = .float x
  · obtain ⟨x, rfl⟩ := hx
    by_cases hy : ∃ y, w = .float y
    · obtain ⟨y, rfl⟩ := hy
      rw [hF x y (hvF x rfl) (hwF y rfl) h]
    · exact absurd (h ▸ floatText_writeScalar x) (not_floatText hw (not_exists.mp hy))
  · by_cases hy : ∃ y, w = .float y
    · obtain ⟨y, rfl⟩ := hy
      exact absurd (h ▸ floatText_writeScalar y) (not_floatText hv (not_exists.mp hx))
    · exact writeScalar_inj_of_not_float hv hw (not_exists.mp hx) (not_exists.mp hy) h

/-! ## Where a document ends -/

theorem takeWhile_isBare_append {s rest : List Char} (hs : ∀ c ∈ s, isBare c = true)
    (hrest : Stops rest) : (s ++ rest).takeWhile isBare = s := by
  have hstop : rest.takeWhile isBare = [] := by
    cases rest with
    | nil => rfl
    | cons c rest =>
      have hc : isBare c = false := by rcases hrest c rfl with rfl | rfl | rfl <;> decide
      rw [List.takeWhile_cons_of_neg (by rw [hc]; decide)]
  rw [List.takeWhile_append_of_pos hs, hstop, List.append_nil]

/-- What is written with plain characters ends where another character comes. -/
theorem append_inj_of_bare {s t rest rest' : List Char} (hs : ∀ c ∈ s, isBare c = true)
    (ht : ∀ c ∈ t, isBare c = true) (hrest : Stops rest) (hrest' : Stops rest')
    (h : s ++ rest = t ++ rest') : s = t ∧ rest = rest' := by
  have hst : s = t := by
    rw [← takeWhile_isBare_append hs hrest, h, takeWhile_isBare_append ht hrest']
  subst hst
  exact ⟨rfl, List.append_cancel_left h⟩

/-- A text ends with its closing quote. -/
theorem writeText_append_inj {s t : String} {rest rest' : List Char}
    (h : (writeText s).toList ++ rest = (writeText t).toList ++ rest') : s = t ∧ rest = rest' := by
  rw [toList_writeText, toList_writeText] at h
  -- what follows the opening quotes is one text, so it is read in one way
  have hread := readText_writeText s rest
  rw [(List.cons.inj h).2, readText_writeText] at hread
  obtain ⟨rfl, rfl⟩ := Prod.mk.inj (Option.some.inj hread)
  exact ⟨rfl, rfl⟩

/-! ## Parts between commas -/

section

variable {α : Type} {w : α → String} {closing : Char}

/-- What follows the first of several parts. -/
def afterFirst (w : α → String) (closing : Char) (rest : List Char) : List α → List Char
  | [] => closing :: rest
  | b :: bs => ',' :: ' ' :: (joined ((b :: bs).map w) ++ closing :: rest)

theorem joined_cons_append (a : α) (as : List α) (rest : List Char) :
    joined ((a :: as).map w) ++ closing :: rest
      = (w a).toList ++ afterFirst w closing rest as := by
  cases as with
  | nil => rw [List.map_singleton, joined_singleton, afterFirst]
  | cons b bs =>
    rw [List.map_cons, List.map_cons, joined_cons, ← List.map_cons, List.append_assoc,
      List.cons_append, List.cons_append, afterFirst]

theorem stops_afterFirst (h : closing = ']' ∨ closing = '\x7d') (rest : List Char) (as : List α) :
    Stops (afterFirst w closing rest as) := by
  intro c hc
  cases as with
  | nil => exact Or.inr (Option.some.inj hc ▸ h)
  | cons b bs => exact Or.inl (Option.some.inj hc).symm

/-- Parts that tell where they end are told apart, up to the bracket that closes them. -/
theorem joined_append_inj (hclosing : closing = ']' ∨ closing = '\x7d') {as bs : List α}
    (hends : ∀ a ∈ as, ∀ b ∈ bs, ∀ rest rest', Stops rest → Stops rest' →
      (w a).toList ++ rest = (w b).toList ++ rest' → a = b ∧ rest = rest')
    (hopens : ∀ a, a ∈ as ∨ a ∈ bs → ∀ rest rest', (w a).toList ++ rest ≠ closing :: rest')
    {rest rest' : List Char}
    (h : joined (as.map w) ++ closing :: rest = joined (bs.map w) ++ closing :: rest') :
    as = bs ∧ rest = rest' := by
  have hcomma : closing ≠ ',' := by rcases hclosing with rfl | rfl <;> decide
  induction as generalizing bs with
  | nil =>
    cases bs with
    | nil => exact ⟨rfl, (List.cons.inj h).2⟩
    | cons b bs =>
      rw [joined_cons_append] at h
      exact absurd h.symm (hopens b (Or.inr List.mem_cons_self) _ _)
  | cons a as ih =>
    cases bs with
    | nil =>
      rw [joined_cons_append] at h
      exact absurd h (hopens a (Or.inl List.mem_cons_self) _ _)
    | cons b bs =>
      rw [joined_cons_append, joined_cons_append] at h
      obtain ⟨rfl, hafter⟩ := hends a List.mem_cons_self b List.mem_cons_self _ _
        (stops_afterFirst hclosing _ _) (stops_afterFirst hclosing _ _) h
      -- either both lists end here, or a comma follows in both
      have hrest : as = bs ∧ rest = rest' := by
        cases as with
        | nil =>
          cases bs with
          | nil => exact ⟨rfl, (List.cons.inj hafter).2⟩
          | cons b bs => exact absurd (List.cons.inj hafter).1 hcomma
        | cons a as =>
          cases bs with
          | nil => exact absurd (List.cons.inj hafter).1.symm hcomma
          | cons b bs =>
            exact ih (fun x hx y hy => hends x (List.mem_cons_of_mem _ hx) y
                (List.mem_cons_of_mem _ hy))
              (fun x hx => hopens x (hx.imp (List.mem_cons_of_mem _) (List.mem_cons_of_mem _)))
              (List.cons.inj (List.cons.inj hafter).2).2
      exact ⟨by rw [hrest.1], hrest.2⟩

end

/-! ## Documents -/

/-- The character that a document starts with, unless it is a plain value. -/
def opening? : Document → Option Char
  | .scalar (.text _) => some '"'
  | .scalar _ => none
  | .list _ => some '['
  | .map _ => some '\x7b'

theorem isPlain_iff {v : Scalar} : IsPlain v ↔ opening? (.scalar v) = none := by
  unfold IsPlain
  cases v <;> simp [opening?]

theorem exists_write_append (d : Document) (rest : List Char) :
    ∃ c s, (write d).toList ++ rest = c :: s
      ∧ (opening? d = some c ∨ opening? d = none ∧ isBare c = true) := by
  cases d with
  | scalar v =>
    by_cases hv : IsPlain v
    · cases hs : (writeScalar v).toList with
      | nil => exact absurd hs (writeScalar_ne_nil hv)
      | cons c s =>
        refine ⟨c, s ++ rest, ?_, Or.inr ⟨isPlain_iff.mp hv, ?_⟩⟩
        · rw [write, hs, List.cons_append]
        · exact isBare_writeScalar hv c (hs ▸ List.mem_cons_self)
    · obtain ⟨t, rfl⟩ : ∃ t, v = .text t := not_forall_not.mp hv
      exact ⟨_, _, toList_writeText t rest, Or.inl rfl⟩
  | list items => exact ⟨_, _, toList_write_list items rest, Or.inl rfl⟩
  | map entries => exact ⟨_, _, toList_write_map entries rest, Or.inl rfl⟩

theorem opening?_not_bare {d : Document} {c : Char} (h : opening? d = some c) :
    isBare c = false ∧ c ∉ ",]\x7d".toList := by
  unfold opening? at h
  split at h
  · exact Option.some.inj h ▸ by decide
  · exact absurd h (by simp)
  · exact Option.some.inj h ▸ by decide
  · exact Option.some.inj h ▸ by decide

/-- No document starts with a character that separates or closes. -/
theorem write_append_ne (d : Document) {c : Char} (hc : c ∈ ",]\x7d".toList)
    (rest rest' : List Char) : (write d).toList ++ rest ≠ c :: rest' := by
  have hbare : (",]\x7d".toList.all fun c => !isBare c) = true := by decide
  intro heq
  obtain ⟨c', s, hwrite, hopen⟩ := exists_write_append d rest
  obtain ⟨rfl, -⟩ := List.cons.inj (hwrite.symm.trans heq)
  rcases hopen with h | ⟨-, h⟩
  · exact (opening?_not_bare h).2 hc
  · have hno := List.all_eq_true.mp hbare _ hc
    rw [h] at hno
    exact Bool.noConfusion hno

/-- The first character tells which kind of document was written. -/
theorem opening?_eq {d d' : Document} {rest rest' : List Char}
    (h : (write d).toList ++ rest = (write d').toList ++ rest') : opening? d = opening? d' := by
  obtain ⟨c, s, hd, hopen⟩ := exists_write_append d rest
  obtain ⟨c', s', hd', hopen'⟩ := exists_write_append d' rest'
  obtain ⟨rfl, -⟩ := List.cons.inj (hd.symm.trans (h.trans hd'))
  rcases hopen with hc | ⟨hnone, hbare⟩
  · rcases hopen' with hc' | ⟨-, hbare'⟩
    · rw [hc, hc']
    · exact absurd hbare' (by rw [(opening?_not_bare hc).1]; decide)
  · rcases hopen' with hc' | ⟨hnone', -⟩
    · exact absurd hbare (by rw [(opening?_not_bare hc').1]; decide)
    · rw [hnone, hnone']

section

variable {F : Float → Prop}

/-- A document is told apart from all others, and tells where it ends. -/
def Ends (F : Float → Prop) (d : Document) : Prop :=
  ∀ d' rest rest', FloatsIn F d' → Stops rest → Stops rest' →
    (write d).toList ++ rest = (write d').toList ++ rest' → d = d' ∧ rest = rest'

theorem ends_scalar (hF : NumeralsDiffer F) {v : Scalar} (hv : ∀ x, v = .float x → F x) :
    Ends F (.scalar v) := by
  intro d' rest rest' hd' hrest hrest' h
  have hopen := opening?_eq h
  cases hd' with
  | list _ => exact absurd hopen (by cases v <;> simp [opening?])
  | map _ => exact absurd hopen (by cases v <;> simp [opening?])
  | @scalar w hw =>
    by_cases hplain : IsPlain v
    · -- both are written with plain characters, up to where something else comes
      have hplain' : IsPlain w := isPlain_iff.mpr (hopen.symm.trans (isPlain_iff.mp hplain))
      obtain ⟨htext, hends⟩ := append_inj_of_bare (isBare_writeScalar hplain)
        (isBare_writeScalar hplain') hrest hrest' h
      exact ⟨by rw [writeScalar_inj hF hplain hplain' hv hw (String.toList_inj.mp htext)], hends⟩
    · -- both are texts, and each ends with its closing quote
      have hplain' : ¬ IsPlain w := fun hw' =>
        hplain (isPlain_iff.mpr (hopen.trans (isPlain_iff.mp hw')))
      obtain ⟨t, rfl⟩ : ∃ t, v = .text t := not_forall_not.mp hplain
      obtain ⟨t', rfl⟩ : ∃ t', w = .text t' := not_forall_not.mp hplain'
      obtain ⟨rfl, hends⟩ := writeText_append_inj h
      exact ⟨rfl, hends⟩

theorem ends_list {items : List Document} (h : ∀ d ∈ items, Ends F d) : Ends F (.list items) := by
  intro d' rest rest' hd' _ _ heq
  have hopen := opening?_eq heq
  cases hd' with
  | @scalar w _ => exact absurd hopen (by cases w <;> simp [opening?])
  | map _ => exact absurd hopen (by simp [opening?])
  | @list items' hitems' =>
    rw [toList_write_list, toList_write_list] at heq
    obtain ⟨rfl, hends⟩ := joined_append_inj (Or.inl rfl)
      (fun d hd d' hd' r r' => h d hd d' r r' (hitems' d' hd'))
      (fun d _ => write_append_ne d (by decide)) (List.cons.inj heq).2
    exact ⟨rfl, hends⟩

theorem ends_entry {e e' : String × Document} (h : Ends F e.2) (he' : FloatsIn F e'.2)
    {rest rest' : List Char} (hrest : Stops rest) (hrest' : Stops rest')
    (heq : (writeEntry e).toList ++ rest = (writeEntry e').toList ++ rest') :
    e = e' ∧ rest = rest' := by
  have hkey : ∀ (e : String × Document) rest, (writeEntry e).toList ++ rest
      = (writeText e.1).toList ++ ':' :: ' ' :: ((write e.2).toList ++ rest) := by
    intro e rest
    rw [toList_writeEntry, toList_writeText]
  rw [hkey, hkey] at heq
  obtain ⟨hk, hvalue⟩ := writeText_append_inj heq
  obtain ⟨hd, hends⟩ := h e'.2 rest rest' he' hrest hrest'
    (List.cons.inj (List.cons.inj hvalue).2).2
  exact ⟨Prod.ext hk hd, hends⟩

theorem ends_map {entries : List (String × Document)} (h : ∀ e ∈ entries, Ends F e.2) :
    Ends F (.map entries) := by
  intro d' rest rest' hd' _ _ heq
  have hopen := opening?_eq heq
  cases hd' with
  | @scalar w _ => exact absurd hopen (by cases w <;> simp [opening?])
  | list _ => exact absurd hopen (by simp [opening?])
  | @map entries' hentries' =>
    rw [toList_write_map, toList_write_map] at heq
    obtain ⟨rfl, hends⟩ := joined_append_inj (Or.inr rfl)
      (fun e he e' he' r r' hr hr' => ends_entry (h e he) (hentries' e' he') hr hr')
      (fun e _ r r' hquote => by
        rw [toList_writeEntry] at hquote
        exact absurd (List.cons.inj hquote).1 (by decide)) (List.cons.inj heq).2
    exact ⟨rfl, hends⟩

theorem FloatsIn.ends (hF : NumeralsDiffer F) {d : Document} (h : FloatsIn F d) : Ends F d := by
  induction h with
  | scalar h => exact ends_scalar hF h
  | list _ ih => exact ends_list ih
  | map _ ih => exact ends_map ih

/-- **Different documents have different texts**, if their different floats do. -/
theorem write_inj (hF : NumeralsDiffer F) {d d' : Document} (hd : FloatsIn F d)
    (hd' : FloatsIn F d') (h : write d = write d') : d = d' :=
  (hd.ends hF d' [] [] hd' Stops.nil Stops.nil (by rw [h])).1

end

end PropertyGraph.Json
