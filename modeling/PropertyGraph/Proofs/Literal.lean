import Mathlib.Data.List.Forall2
import PropertyGraph.Proofs.CharClass
import PropertyGraph.Proofs.Elements
import PropertyGraph.Proofs.Entries
import PropertyGraph.Proofs.OrderedMap

/-!
# What property literals denote

`Written w (.ok v)` says that the text `w` is a written form of the value `v`, and
`Entered e (k, r)` that the text `e` is the key `k` with what `r` is written as, and blanks around
both. A whole entry is one piece of the literal, and then the form of a value decides how it is
read; no text has two forms.

Digits are a form of an integer as long as there are not too many. So a literal of entered texts
denotes their pairs exactly if it has no such numeral, and the first one stops it: `parse_entered`.
-/

namespace PropertyGraph.Literal

open Text Decimal

/-! ## Values -/

/-- A text of digits, at least one, that have the given values. -/
def Numeral (s : List Char) (ds : List Nat) : Prop := s ≠ [] ∧ s.map digitValue? = ds.map some

/-- A text that is a value as it stands: no comma or quote, not blank at its ends, no other form. -/
structure Bare (s : List Char) : Prop where
  trimmed : Trimmed s
  plain : ∀ c ∈ s, c ≠ ',' ∧ isQuote c = false
  not_natural : ¬ ∃ ds, Numeral s ds
  not_decimal : ¬ ∃ a b ds es, Numeral a ds ∧ Numeral b es ∧ s = a ++ '.' :: b
  not_word : word? s = none

/-- The written forms of the values, and the numerals that are too long to be one. -/
inductive Written : List Char → Except LongNumeral Scalar → Prop where
  /-- A text between two equal quotes that do not occur in it. -/
  | quoted {q : Char} {s : List Char} (hq : isQuote q = true) (hs : q ∉ s) :
    Written (q :: (s ++ [q])) (.ok (.text (String.ofList s)))
  /-- Digits. -/
  | natural {s : List Char} {ds : List Nat} (h : Numeral s ds) (hsize : ds.length ≤ digitLimit) :
    Written s (.ok (.int (ofDigits ds)))
  /-- Too many digits. -/
  | long {s : List Char} {ds : List Nat} (h : Numeral s ds) (hsize : digitLimit < ds.length) :
    Written s (.error ⟨ds.length⟩)
  /-- Digits around a point, however many. -/
  | decimal {a b : List Char} {ds es : List Nat} (ha : Numeral a ds) (hb : Numeral b es) :
    Written (a ++ '.' :: b) (.ok (.float (toFloat ⟨ofDigits (ds ++ es), -(es.length : Int)⟩)))
  | yes : Written "true".toList (.ok (.bool true))
  | no : Written "false".toList (.ok (.bool false))
  | nothing : Written "null".toList (.ok .null)
  /-- Any other text. -/
  | bare {s : List Char} (h : Bare s) : Written s (.ok (.text (String.ofList s)))

theorem digits?_eq_some_iff {s : List Char} {ds : List Nat} :
    digits? digitValue? s = some ds ↔ Numeral s ds := by
  have hmapM : ∀ (s : List Char) (ds : List Nat),
      s.mapM digitValue? = some ds ↔ s.map digitValue? = ds.map some := by
    intro s
    induction s with
    | nil =>
      intro ds
      cases ds <;> simp
    | cons c s ih =>
      intro ds
      rw [List.mapM_cons, Option.bind_eq_bind, Option.bind_eq_some_iff]
      constructor
      · rintro ⟨d, hd, hrest⟩
        obtain ⟨es, hes, heq⟩ := Option.bind_eq_some_iff.mp hrest
        rw [← Option.some.inj heq, List.map_cons, List.map_cons, hd, (ih es).mp hes]
      · intro h
        cases ds with
        | nil => exact absurd h (by simp)
        | cons d ds =>
          obtain ⟨hd, hds⟩ := List.cons.inj h
          exact ⟨d, hd, Option.bind_eq_some_iff.mpr ⟨ds, (ih ds).mpr hds, rfl⟩⟩
  unfold digits? Numeral
  split
  · rename_i h
    simp [h]
  · rename_i h
    simp [h, hmapM]

theorem Numeral.digit {s : List Char} {ds : List Nat} (h : Numeral s ds) {c : Char} (hc : c ∈ s) :
    ∃ d, digitValue? c = some d := by
  have hmem := List.mem_map_of_mem (f := digitValue?) hc
  rw [h.2] at hmem
  obtain ⟨d, -, hd⟩ := List.mem_map.mp hmem
  exact ⟨d, hd.symm⟩

/-- No digit is a comma, a quote, a colon or a point. -/
theorem plain_of_digit {c : Char} {d : Nat} (h : digitValue? c = some d) :
    c ≠ ',' ∧ isQuote c = false ∧ c ≠ '.' := by
  have hne : ∀ x : Char, digitValue? x = none → c ≠ x := by
    rintro x hx rfl
    rw [hx] at h
    exact absurd h (by simp)
  refine ⟨hne ',' (by decide), ?_, hne '.' (by decide)⟩
  rw [isQuote, Bool.or_eq_false_iff, beq_eq_false_iff_ne, beq_eq_false_iff_ne]
  exact ⟨hne '\'' (by decide), hne '"' (by decide)⟩

theorem Numeral.plain {s : List Char} {ds : List Nat} (h : Numeral s ds) :
    ∀ c ∈ s, isBlank c = false ∧ c ≠ ',' ∧ isQuote c = false ∧ c ≠ '.' := by
  intro c hc
  obtain ⟨d, hd⟩ := h.digit hc
  exact ⟨not_blank_of_digit hd, plain_of_digit hd⟩

theorem plain_of_all {s : List Char}
    (h : (s.all fun c => !isBlank c && c != ',' && !isQuote c) = true) :
    ∀ c ∈ s, isBlank c = false ∧ c ≠ ',' ∧ isQuote c = false := by
  intro c hc
  have hplain := List.all_eq_true.mp h c hc
  simpa [and_assoc] using hplain

/-- Digits around a point are nothing but digits and the point. -/
theorem plain_of_decimal {a b : List Char} {ds es : List Nat} (ha : Numeral a ds)
    (hb : Numeral b es) :
    ∀ c ∈ a ++ '.' :: b, isBlank c = false ∧ c ≠ ',' ∧ isQuote c = false := by
  intro c hc
  rcases List.mem_append.mp hc with hc | hc
  · obtain ⟨h1, h2, h3, -⟩ := ha.plain c hc
    exact ⟨h1, h2, h3⟩
  · rcases List.mem_cons.mp hc with rfl | hc
    · decide
    · obtain ⟨h1, h2, h3, -⟩ := hb.plain c hc
      exact ⟨h1, h2, h3⟩

theorem not_blank_of_quote {q : Char} (h : isQuote q = true) : isBlank q = false := by
  cases hb : isBlank q with
  | false => rfl
  | true =>
    rw [not_quote_of_blank hb] at h
    exact Bool.noConfusion h

/-- A written value has no blanks around it. -/
theorem Written.trimmed {w : List Char} {r : Except LongNumeral Scalar} (h : Written w r) :
    Trimmed w := by
  cases h with
  | quoted hq hs =>
    have hb := not_blank_of_quote hq
    refine ⟨fun c hc => ?_, fun c hc => ?_⟩
    · rw [List.head?_cons] at hc
      rwa [← Option.some.inj hc]
    · rw [← List.cons_append, List.getLast?_concat] at hc
      rwa [← Option.some.inj hc]
  | natural h _ | long h _ => exact trimmed_of_forall fun c hc => (h.plain c hc).1
  | decimal ha hb => exact trimmed_of_forall fun c hc => (plain_of_decimal ha hb c hc).1
  | yes => exact trimmed_of_forall fun c hc => (plain_of_all (by decide) c hc).1
  | no => exact trimmed_of_forall fun c hc => (plain_of_all (by decide) c hc).1
  | nothing => exact trimmed_of_forall fun c hc => (plain_of_all (by decide) c hc).1
  | bare h => exact h.trimmed

/-- A written value can stand between two commas. -/
theorem Written.isPiece {w : List Char} {r : Except LongNumeral Scalar} (h : Written w r) :
    IsPiece w := by
  cases h with
  | @quoted q s hq hs =>
    obtain ⟨h1, h2⟩ := inside_quotes hs
    have hopen : stepQuote none q = some q := by rw [stepQuote, if_pos hq]
    refine ⟨openQuote_quoted hq hs [], fun hc => ?_, ?_⟩
    · exact absurd hq (by rw [hc.2]; decide)
    · rw [hopen, whole_append, h1]
      exact ⟨h2, fun hc => absurd hc.1 (by simp), trivial⟩
  | natural h _ | long h _ =>
    exact isPiece_of_plain fun c hc => ⟨(h.plain c hc).2.1, (h.plain c hc).2.2.1⟩
  | decimal ha hb => exact isPiece_of_plain fun c hc => (plain_of_decimal ha hb c hc).2
  | yes => exact isPiece_of_plain fun c hc => (plain_of_all (by decide) c hc).2
  | no => exact isPiece_of_plain fun c hc => (plain_of_all (by decide) c hc).2
  | nothing => exact isPiece_of_plain fun c hc => (plain_of_all (by decide) c hc).2
  | bare h => exact isPiece_of_plain h.plain

/-! ## Reading values -/

theorem dropLineBreak_of_trimmed {s : List Char} (h : Trimmed s) : dropLineBreak s = s := by
  unfold dropLineBreak
  refine if_neg fun hlast => ?_
  exact absurd (h.last _ hlast) (by decide)

theorem unquote?_of_no_quote {s : List Char} (h : ∀ c ∈ s, isQuote c = false) :
    unquote? s = none := by
  cases s with
  | nil => rfl
  | cons c s =>
    unfold unquote?
    refine if_neg fun hq => ?_
    rw [h c List.mem_cons_self] at hq
    exact Bool.noConfusion hq.1

theorem natural?_eq_some_iff {s : List Char} (h : Trimmed s) {n : Except LongNumeral Nat} :
    natural? s = some n ↔ ∃ ds, Numeral s ds ∧ integer ds = n := by
  unfold natural?
  rw [dropLineBreak_of_trimmed h, Option.map_eq_some_iff]
  simp only [digits?_eq_some_iff]

theorem decimal?_of_numerals {a b : List Char} {ds es : List Nat} (ha : Numeral a ds)
    (hb : Numeral b es) :
    decimal? (a ++ '.' :: b) = some ⟨ofDigits (ds ++ es), -(es.length : Int)⟩ := by
  have htrim : Trimmed (a ++ '.' :: b) :=
    trimmed_of_forall fun c hc => (plain_of_decimal ha hb c hc).1
  unfold decimal?
  rw [dropLineBreak_of_trimmed htrim, span_of_not_mem fun hmem => (ha.plain _ hmem).2.2.2 rfl]
  dsimp only
  rw [digits?_eq_some_iff.mpr ha, digits?_eq_some_iff.mpr hb]
  rfl

theorem numerals_of_decimal? {s : List Char} (h : Trimmed s) {d : Decimal}
    (hd : decimal? s = some d) : ∃ a b ds es, Numeral a ds ∧ Numeral b es ∧ s = a ++ '.' :: b := by
  unfold decimal? at hd
  rw [dropLineBreak_of_trimmed h, List.span_eq_takeWhile_dropWhile] at hd
  have hcut := List.takeWhile_append_dropWhile (p := (· != '.')) (l := s)
  have hpoint := List.head?_dropWhile_not (· != '.') s
  cases hq : s.dropWhile (· != '.') with
  | nil =>
    rw [hq] at hd
    exact absurd hd (by simp)
  | cons c places =>
    rw [hq] at hd hcut hpoint
    obtain rfl : c = '.' := by simpa using hpoint
    obtain ⟨ds, hds, hd⟩ := Option.bind_eq_some_iff.mp hd
    obtain ⟨es, hes, -⟩ := Option.bind_eq_some_iff.mp hd
    exact ⟨_, _, ds, es, digits?_eq_some_iff.mp hds, digits?_eq_some_iff.mp hes, hcut.symm⟩

/-- Digits are read as an integer, unless there are too many. -/
theorem value_of_numeral {s : List Char} {ds : List Nat} (h : Numeral s ds) :
    value s = (integer ds).map fun (n : Nat) => .int n := by
  have htrim : Trimmed s := trimmed_of_forall fun c hc => (h.plain c hc).1
  have hnat : natural? s = some (integer ds) := (natural?_eq_some_iff htrim).mpr ⟨ds, h, rfl⟩
  unfold value
  rw [unquote?_of_no_quote fun c hc => (h.plain c hc).2.2.1, hnat]

/-- A text of too many digits. -/
def Overlong (s : List Char) (n : LongNumeral) : Prop :=
  ∃ ds, Numeral s ds ∧ digitLimit < ds.length ∧ n = ⟨ds.length⟩

/-- Nothing but a text of too many digits has no value. -/
theorem value_eq_error_iff {s : List Char} (h : Trimmed s) {n : LongNumeral} :
    value s = .error n ↔ Overlong s n := by
  constructor
  · intro herror
    unfold value at herror
    split at herror
    · exact nomatch herror
    · split at herror
      · rename_i m hnat
        obtain ⟨ds, hds, rfl⟩ := (natural?_eq_some_iff h).mp hnat
        unfold integer at herror
        split at herror
        · exact ⟨ds, hds, ‹_›, (Except.error.inj herror).symm⟩
        · exact nomatch herror
      · split at herror <;> exact nomatch herror
  · rintro ⟨ds, hds, hsize, rfl⟩
    rw [value_of_numeral hds, integer_of_lt hsize]
    rfl

/-- **A written form is read as the value it stands for.** -/
theorem value_of_written {w : List Char} {r : Except LongNumeral Scalar} (h : Written w r) :
    value w = r := by
  have htrim := h.trimmed
  cases h with
  | @quoted q s hq hs =>
    have hun : unquote? (q :: (s ++ [q])) = some s := by
      unfold unquote?
      dsimp only
      rw [if_pos ⟨hq, List.getLast?_concat⟩, List.dropLast_concat]
    unfold value
    rw [hun]
  | natural h hsize =>
    rw [value_of_numeral h, integer_of_le hsize]
    rfl
  | long h hsize =>
    rw [value_of_numeral h, integer_of_lt hsize]
    rfl
  | @decimal a b ds es ha hb =>
    have hnat : natural? (a ++ '.' :: b) = none := by
      rw [Option.eq_none_iff_forall_ne_some]
      intro n hn
      -- the point is no digit
      obtain ⟨fs, hfs, -⟩ := (natural?_eq_some_iff htrim).mp hn
      exact (hfs.plain '.' (by simp)).2.2.2 rfl
    unfold value
    rw [unquote?_of_no_quote fun c hc => (plain_of_decimal ha hb c hc).2.2, hnat,
      decimal?_of_numerals ha hb]
  | yes => decide
  | no => decide
  | nothing => decide
  | bare h =>
    have hnat : natural? w = none := by
      rw [Option.eq_none_iff_forall_ne_some]
      intro n hn
      obtain ⟨ds, hds, -⟩ := (natural?_eq_some_iff htrim).mp hn
      exact h.not_natural ⟨ds, hds⟩
    have hdec : decimal? w = none := by
      rw [Option.eq_none_iff_forall_ne_some]
      intro d hd
      exact h.not_decimal (numerals_of_decimal? htrim hd)
    unfold value
    rw [unquote?_of_no_quote fun c hc => (h.plain c hc).2, hnat, hdec, h.not_word]
    rfl

/-! ## Entries -/

/-- A text that is a key as it stands. -/
structure Key (k : List Char) : Prop where
  nonempty : k ≠ []
  trimmed : Trimmed k
  plain : ∀ c ∈ k, c ≠ ',' ∧ c ≠ ':' ∧ isQuote c = false

/-- A key and a written value with a colon between them, and blanks around each. -/
inductive Entered : List Char → String × Except LongNumeral Scalar → Prop where
  | intro {a b c d k w : List Char} {r : Except LongNumeral Scalar} (ha : Blanks a) (hk : Key k)
    (hb : Blanks b) (hc : Blanks c) (hw : Written w r) (hd : Blanks d) :
    Entered (a ++ k ++ b ++ ':' :: (c ++ w ++ d)) (String.ofList k, r)

section

variable {e : List Char} {p : String × Except LongNumeral Scalar}

/-- An entered text can stand between two commas. -/
theorem Entered.isPiece (h : Entered e p) : IsPiece e := by
  cases h with
  | @intro a b c d k w r ha hk hb hc hw hd =>
    have hfront : ∀ x ∈ a ++ k ++ b ++ ':' :: c, x ≠ ',' ∧ isQuote x = false := by
      intro x hx
      simp only [List.mem_append, List.mem_cons] at hx
      rcases hx with ((hx | hx) | hx) | rfl | hx
      · exact plain_of_blanks ha x hx
      · exact ⟨(hk.plain x hx).1, (hk.plain x hx).2.2⟩
      · exact plain_of_blanks hb x hx
      · decide
      · exact plain_of_blanks hc x hx
    have heq : a ++ k ++ b ++ ':' :: (c ++ w ++ d) = (a ++ k ++ b ++ ':' :: c) ++ w ++ d := by
      simp only [List.append_assoc, List.cons_append]
    rw [heq]
    exact ((isPiece_of_plain hfront).append hw.isPiece).append
      (isPiece_of_plain (plain_of_blanks hd))

/-- An entered text is its key and what is written there. -/
theorem Entered.entry? (h : Entered e p) :
    ∃ w, Literal.entry? e = some (p.1, w) ∧ value w = p.2 := by
  cases h with
  | @intro a b c d k w r ha hk hb hc hw hd =>
    have hcolon : isBlank ':' = false := by decide
    have hno : ':' ∉ a ++ k ++ b := by
      rw [List.mem_append, List.mem_append, not_or, not_or]
      exact ⟨⟨not_mem_of_blanks ha hcolon, fun hmem => (hk.plain _ hmem).2.1 rfl⟩,
        not_mem_of_blanks hb hcolon⟩
    refine ⟨w, ?_, value_of_written hw⟩
    rw [entry?_cut hno, strip_append ha k hb, strip_of_trimmed hk.trimmed, if_neg hk.nonempty,
      strip_append hc w hd, strip_of_trimmed hw.trimmed]

theorem Entered.strip_ne_nil (h : Entered e p) : strip e ≠ [] := by
  intro hnil
  obtain ⟨w, hentry, -⟩ := h.entry?
  rw [← entry?_strip, hnil, entry?_of_no_colon List.not_mem_nil] at hentry
  exact nomatch hentry

end

/-! ## Literals -/

/-- The first value of a literal that has too many digits. -/
def FirstLong (body : List Char) (n : LongNumeral) : Prop :=
  ∃ front k w back, (entries body).filterMap entry? = front ++ (k, w) :: back
    ∧ (∀ e ∈ front, ∀ m, ¬ Overlong e.2 m) ∧ Overlong w n

theorem trimmed_of_entry? {e w : List Char} {k : String} (h : entry? e = some (k, w)) :
    Trimmed w := by
  unfold entry? at h
  split at h
  · exact nomatch h
  · split at h
    · exact nomatch h
    · obtain rfl := congrArg Prod.snd (Option.some.inj h)
      exact strip_trimmed _

theorem denoted_eq_error_iff {body : List Char} {n : LongNumeral} :
    denoted body = .error n ↔ FirstLong body n := by
  have hlong : ∀ e ∈ (entries body).filterMap entry?, ∀ m,
      value e.2 = .error m ↔ Overlong e.2 m := by
    intro e he m
    obtain ⟨s, -, hs⟩ := List.mem_filterMap.mp he
    have htrim : Trimmed e.2 := trimmed_of_entry? hs
    exact value_eq_error_iff htrim
  unfold denoted pairs FirstLong
  rw [map_eq_error_iff, mapM_eq_error_iff]
  constructor
  · rintro ⟨front, ⟨k, w⟩, back, heq, hfront, hw⟩
    rw [heq, List.forall_mem_append, List.forall_mem_cons] at hlong
    obtain ⟨hleft, hhere, -⟩ := hlong
    refine ⟨front, k, w, back, heq, fun e he m hm => ?_, (hhere n).mp (map_eq_error_iff.mp hw)⟩
    exact exists_map_eq_ok_iff.mp (hfront e he) m ((hleft e he m).mpr hm)
  · rintro ⟨front, k, w, back, heq, hfront, hw⟩
    rw [heq, List.forall_mem_append, List.forall_mem_cons] at hlong
    obtain ⟨hleft, hhere, -⟩ := hlong
    refine ⟨front, (k, w), back, heq, fun e he => ?_, map_eq_error_iff.mpr ((hhere n).mpr hw)⟩
    exact exists_map_eq_ok_iff.mpr fun m hm => hfront e he m ((hleft e he m).mp hm)

/-- A literal is refused if it leaves a quote open. -/
theorem parse_braced_eq_reported_iff {body : String} {fault : Command.Fault} :
    parse (braced body) = .error (.reported fault)
      ↔ ∃ q, openQuote none body.toList = some q ∧ fault = .unclosedQuote q (trim body) := by
  rw [parse_braced]
  cases openQuote none body.toList with
  | none => cases denoted body.toList <;> simp [Except.mapError]
  | some q => simp [eq_comm]

/-- A literal that leaves no quote open is read up to the first value with too many digits. -/
theorem parse_braced_eq_longNumeral_iff {body : String} {n : LongNumeral} :
    parse (braced body) = .error (.longNumeral n)
      ↔ openQuote none body.toList = none ∧ FirstLong body.toList n := by
  rw [parse_braced, ← denoted_eq_error_iff]
  cases openQuote none body.toList with
  | none => cases denoted body.toList <;> simp [Except.mapError]
  | some q => simp

section

variable {es : List (List Char)} {ps : List (String × Except LongNumeral Scalar)}

/-- Entered texts with commas between them leave no quote open, and are the pieces of the whole. -/
theorem scan_entered (h : List.Forall₂ Entered es ps) :
    openQuote none ([','].intercalate es) = none
      ∧ entries ([','].intercalate es) = es.map strip := by
  induction h with
  | nil => exact ⟨rfl, rfl⟩
  | @cons e p es ps he hes ih =>
    obtain ⟨hopen, hwhole⟩ := he.isPiece
    have hentry : entries e = [strip e] := by
      rw [entries_of_whole hwhole, if_neg he.strip_ne_nil]
    cases es with
    | nil =>
      rw [List.intercalate_singleton]
      exact ⟨hopen, hentry⟩
    | cons e' es =>
      have hcut : [','].intercalate (e :: e' :: es)
          = e ++ ',' :: [','].intercalate (e' :: es) := by
        rw [List.intercalate_cons_cons, List.append_assoc]
        rfl
      refine ⟨?_, ?_⟩
      · rw [hcut, openQuote_append, hopen]
        exact ih.1
      · rw [hcut, entries_append_comma hopen, hentry, ih.2]
        rfl

/-- Pairs whose values can all be read. -/
def readable (qs : List (String × Scalar)) : List (String × Except LongNumeral Scalar) :=
  qs.map fun q => (q.1, .ok q.2)

/-- A key with its value, if it has one. -/
def pair (p : String × Except LongNumeral Scalar) : Except LongNumeral (String × Scalar) :=
  p.2.map (p.1, ·)

/-- The values of entered texts are read one after the other. -/
theorem pairs_entered (h : List.Forall₂ Entered es ps) : pairs (es.map strip) = ps.mapM pair := by
  unfold pairs
  induction h with
  | nil => rfl
  | cons he _ ih =>
    obtain ⟨w, hentry, hvalue⟩ := he.entry?
    rw [List.map_cons, List.filterMap_cons_some ((entry?_strip _).trans hentry), List.mapM_cons,
      List.mapM_cons, ih, hvalue]
    rfl

/-- Entered texts between braces, and with commas between them. -/
def literal (es : List (List Char)) : String :=
  String.ofList ('\x7b' :: ([','].intercalate es ++ ['\x7d']))

theorem literal_eq_braced (es : List (List Char)) :
    literal es = braced (String.ofList ([','].intercalate es)) := by
  unfold literal
  rw [← String.toList_inj, String.toList_ofList, toList_braced, String.toList_ofList]

theorem parse_literal (h : List.Forall₂ Entered es ps) :
    parse (literal es) = ((ps.mapM pair).map OrderedMap.ofList).mapError .longNumeral := by
  obtain ⟨hopen, hentries⟩ := scan_entered h
  rw [literal_eq_braced, parse_braced, String.toList_ofList, hopen]
  dsimp only
  unfold denoted
  rw [hentries, pairs_entered h]

/--
**A literal denotes the pairs that are entered in it**, as far as it can be read. If no value has
too many digits, it is the map of the pairs: its keys are those of the pairs in the order of first
occurrence, and each has the value of its last pair. If some value has, the literal denotes nothing,
and the first such value is what stops the reading.
-/
theorem parse_entered (h : List.Forall₂ Entered es ps) :
    (∀ qs, ps = readable qs → ∃ m, parse (literal es) = .ok m
      ∧ m.keys = (qs.map Prod.fst).eraseDups ∧ ∀ k, m.get? k = qs.reverse.lookup k)
    ∧ ∀ front k n back, ps = readable front ++ (k, .error n) :: back →
      parse (literal es) = .error (.longNumeral n) := by
  rw [parse_literal h]
  constructor
  · rintro qs rfl
    have hread : (readable qs).mapM pair = .ok qs := by
      rw [mapM_eq_ok_iff, readable, List.forall₂_map_left_iff, List.forall₂_same]
      exact fun q _ => rfl
    rw [hread]
    exact ⟨OrderedMap.ofList qs, rfl, OrderedMap.keys_ofList qs, OrderedMap.get?_ofList qs⟩
  · rintro front k n back rfl
    have hread : (readable front ++ (k, .error n) :: back).mapM pair = .error n := by
      refine mapM_eq_error_iff.mpr ⟨_, _, back, rfl, fun p hp => ?_, rfl⟩
      obtain ⟨q, -, rfl⟩ := List.mem_map.mp hp
      exact ⟨q, rfl⟩
    rw [hread]
    rfl

end

/-- A numeral of so many digits. -/
def ones (n : Nat) : List Char := List.replicate n '1'

theorem numeral_ones {n : Nat} (h : 0 < n) : Numeral (ones n) (List.replicate n 1) := by
  refine ⟨fun hnil => ?_, ?_⟩
  · have hlen := congrArg List.length hnil
    rw [ones, List.length_replicate] at hlen
    exact absurd (hlen ▸ h) (Nat.not_lt_zero _)
  · rw [ones, List.map_replicate, List.map_replicate]
    rfl

theorem written_ones {n : Nat} (h : digitLimit < n) : Written (ones n) (.error ⟨n⟩) := by
  have hwritten := Written.long (numeral_ones (Nat.zero_lt_of_lt h))
    (by rwa [List.length_replicate])
  rwa [List.length_replicate] at hwritten

theorem key_of_letter : ∀ c ∈ ['a', 'b'], Key [c] := by
  intro c hc
  have hcolon : (['a', 'b'].all (· != ':')) = true := by decide
  obtain ⟨h1, h2, h3⟩ := plain_of_all (by decide) c hc
  have h4 : c ≠ ':' := by simpa using List.all_eq_true.mp hcolon c hc
  exact ⟨by simp, trimmed_of_forall (by simpa using h1), by simpa using ⟨h2, h4, h3⟩⟩

/-- A key with a numeral that has too many digits. -/
theorem entered_ones {n : Nat} (h : digitLimit < n) :
    Entered ('a' :: ':' :: ones n) ("a", .error ⟨n⟩) := by
  have hentry := Entered.intro .nil (key_of_letter 'a' (by simp)) .nil .nil (written_ones h) .nil
  rw [List.append_nil, List.append_nil] at hentry
  exact hentry

theorem parse_ones {n : Nat} (h : digitLimit < n) :
    parse (literal ['a' :: ':' :: ones n]) = .error (.longNumeral ⟨n⟩) := by
  rw [parse_literal (.cons (entered_ones h) .nil)]
  rfl

/-- Digits are not read as the integer they denote if there are too many. -/
theorem not_parse_ones : Numeral (ones 4301) (List.replicate 4301 1)
    ∧ parse (literal ['a' :: ':' :: ones 4301]) = .error (.longNumeral ⟨4301⟩) :=
  ⟨numeral_ones (by decide), parse_ones (by decide)⟩

/-- A comma and a brace in a quoted text, a key that occurs twice, and digits of another script; and
after these, a digit too many. -/
theorem parse_entered_sample :
    let es := [" a : 'x,\x7d' ".toList, "b:\"1\"".toList, "b: ٣٤".toList]
    (∃ m, parse (literal es) = .ok m ∧ m.keys = ["a", "b"]
      ∧ m.get? "a" = some (.text "x,\x7d") ∧ m.get? "b" = some (.int 34))
    ∧ parse (literal (es ++ ['a' :: ':' :: ones 4301])) = .error (.longNumeral ⟨4301⟩) := by
  intro es
  have hspace : Blanks [' '] := by simp [Blanks, isBlank]
  have hno : Blanks [] := Blanks.nil
  have hnumeral : Numeral "٣٤".toList [3, 4] := ⟨by decide, by decide⟩
  have hentered : List.Forall₂ Entered es
      [("a", .ok (.text "x,\x7d")), ("b", .ok (.text "1")), ("b", .ok (.int 34))] := by
    refine .cons ?_ (.cons ?_ (.cons ?_ .nil))
    · exact .intro hspace (key_of_letter 'a' (by simp)) hspace hspace
        (.quoted (q := '\'') (s := "x,\x7d".toList) rfl (by decide)) hspace
    · exact .intro hno (key_of_letter 'b' (by simp)) hno hno
        (.quoted (q := '"') (s := ['1']) rfl (by decide)) hno
    · exact .intro hno (key_of_letter 'b' (by simp)) hno hspace (.natural hnumeral (by decide)) hno
  have hlong := entered_ones (n := 4301) (by decide)
  obtain ⟨m, hm, hkeys, hvalues⟩ :=
    (parse_entered hentered).1 [("a", .text "x,\x7d"), ("b", .text "1"), ("b", .int 34)] rfl
  refine ⟨⟨m, hm, hkeys.trans (by decide), (hvalues "a").trans (by decide),
    (hvalues "b").trans (by decide)⟩, ?_⟩
  exact (parse_entered (List.rel_append hentered (.cons hlong .nil))).2
    [("a", .text "x,\x7d"), ("b", .text "1"), ("b", .int 34)] "a" ⟨4301⟩ [] rfl

end PropertyGraph.Literal
