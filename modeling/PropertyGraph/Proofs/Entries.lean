import Mathlib.Data.List.TakeDrop
import PropertyGraph.Command.Literal
import PropertyGraph.Proofs.Trim

/-!
# How a property literal is divided

The scan that looks for commas carries the quote that is open. A piece leaves none open and has no
comma outside quotes, so the pieces of a literal are what stands between its commas. A literal is
trimmed before the scan, its pieces after it, and the two sides of a colon once more; each time
blanks are lost and nothing else. So a text between braces denotes the map of its entries, unless
it leaves a quote open: `parse_braced`.
-/

namespace PropertyGraph.Literal

open Text

/-! ## The scan for commas -/

theorem stepQuote_of_plain {c : Char} (h : isQuote c = false) : stepQuote none c = none := by
  rw [stepQuote, h]
  rfl

/-- A text in which no comma stands outside quotes. -/
def Whole (quote : Option Char) : List Char → Prop
  | [] => True
  | c :: s => ¬ (quote = none ∧ c = ',') ∧ Whole (stepQuote quote c) s

theorem whole_append {quote : Option Char} {s t : List Char} :
    Whole quote (s ++ t) ↔ Whole quote s ∧ Whole (openQuote quote s) t := by
  induction s generalizing quote with
  | nil => simp [Whole]
  | cons c s ih => rw [List.cons_append, Whole, Whole, ih, openQuote_cons, and_assoc]

theorem whole_of_no_comma {quote : Option Char} {s : List Char} (h : ',' ∉ s) :
    Whole quote s := by
  induction s generalizing quote with
  | nil => trivial
  | cons c s ih =>
    rw [List.mem_cons, not_or] at h
    exact ⟨fun hc => h.1 hc.2.symm, ih h.2⟩

/-- Without quotes a text that starts outside quotes ends there. -/
theorem openQuote_none_of_no_quote {s : List Char} (h : ∀ c ∈ s, isQuote c = false) :
    openQuote none s = none := by
  induction s with
  | nil => rfl
  | cons c s ih =>
    rw [openQuote_cons, stepQuote_of_plain (h c List.mem_cons_self),
      ih fun d hd => h d (List.mem_cons_of_mem _ hd)]

/-- A quote stays open until it occurs again, and commas do not count meanwhile. -/
theorem inside_quotes {q : Char} {s : List Char} (h : q ∉ s) :
    openQuote (some q) s = some q ∧ Whole (some q) s := by
  induction s with
  | nil => exact ⟨rfl, trivial⟩
  | cons c s ih =>
    rw [List.mem_cons, not_or] at h
    obtain ⟨h1, h2⟩ := ih h.2
    have hstep : stepQuote (some q) c = some q := by
      rw [stepQuote, if_neg fun heq => h.1 heq.symm]
    rw [openQuote_cons, Whole, hstep]
    exact ⟨h1, fun hc => absurd hc.1 (by simp), h2⟩

/-- A text that starts with a quote and goes on to the next one leaves none open. -/
theorem openQuote_quoted {q : Char} (hq : isQuote q = true) {s : List Char} (h : q ∉ s)
    (t : List Char) : openQuote none (q :: (s ++ q :: t)) = openQuote none t := by
  have hopen : stepQuote none q = some q := by rw [stepQuote, if_pos hq]
  have hclose : stepQuote (some q) q = none := by rw [stepQuote, if_pos rfl]
  rw [openQuote_cons, hopen, openQuote_append, (inside_quotes h).1, openQuote_cons, hclose]

/-- The quote that is open at the end was open from the start, or is a quotation mark. -/
theorem isQuote_of_openQuote {quote : Option Char} {s : List Char} {q : Char}
    (h : openQuote quote s = some q) : quote = some q ∨ isQuote q = true := by
  induction s generalizing quote with
  | nil => exact Or.inl h
  | cons c s ih =>
    rcases ih h with hstep | hq
    · cases quote with
      | none =>
        rw [stepQuote] at hstep
        by_cases hc : isQuote c = true
        · rw [if_pos hc] at hstep
          exact Or.inr (Option.some.inj hstep ▸ hc)
        · rw [if_neg hc] at hstep
          exact absurd hstep (by simp)
      | some q' =>
        rw [stepQuote] at hstep
        by_cases hc : c = q'
        · rw [if_pos hc] at hstep
          exact absurd hstep (by simp)
        · rw [if_neg hc] at hstep
          exact Or.inl hstep
    · exact Or.inr hq

/-- A text that can stand between two commas: no quote is left open, no comma is outside quotes. -/
structure IsPiece (s : List Char) : Prop where
  closed : openQuote none s = none
  whole : Whole none s

theorem isPiece_of_plain {s : List Char} (h : ∀ c ∈ s, c ≠ ',' ∧ isQuote c = false) :
    IsPiece s where
  closed := openQuote_none_of_no_quote fun c hc => (h c hc).2
  whole := whole_of_no_comma fun hmem => (h ',' hmem).1 rfl

theorem IsPiece.append {s t : List Char} (hs : IsPiece s) (ht : IsPiece t) : IsPiece (s ++ t) where
  closed := by rw [openQuote_append, hs.closed, ht.closed]
  whole := whole_append.mpr ⟨hs.whole, by rw [hs.closed]; exact ht.whole⟩

/-! ## Pieces -/

/-- A whole text is one piece. -/
theorem pieces_of_whole {quote : Option Char} {s : List Char} (h : Whole quote s) :
    pieces quote s = [s] := by
  induction s generalizing quote with
  | nil => rfl
  | cons c s ih => rw [pieces, if_neg h.1, ih h.2]

/-- A whole text is one entry, or none if there is nothing but blanks in it. -/
theorem entries_of_whole {s : List Char} (h : Whole none s) :
    entries s = if strip s = [] then [] else [strip s] := by
  rw [entries, pieces_of_whole h, List.map_singleton]
  split
  · rename_i hnil
    rw [hnil]
    rfl
  · rename_i hne
    exact List.filter_cons_of_pos (by simpa using hne)

/-- The pieces of a text with a comma outside quotes are those before it and those after it. -/
theorem pieces_append_comma {quote : Option Char} {s : List Char} (h : openQuote quote s = none)
    (t : List Char) : pieces quote (s ++ ',' :: t) = pieces quote s ++ pieces none t := by
  induction s generalizing quote with
  | nil =>
    obtain rfl : quote = none := h
    show pieces none (',' :: t) = [] :: pieces none t
    rw [pieces, if_pos ⟨rfl, rfl⟩]
  | cons c s ih =>
    rw [List.cons_append, pieces, pieces]
    by_cases hc : quote = none ∧ c = ','
    · obtain ⟨rfl, rfl⟩ := hc
      rw [if_pos ⟨rfl, rfl⟩, if_pos ⟨rfl, rfl⟩, @ih none h, List.cons_append]
    · rw [if_neg hc, if_neg hc, ih h]
      cases hp : pieces (stepQuote quote c) s with
      | nil => exact absurd hp (pieces_ne_nil _ _)
      | cons p ps => rfl

/-- The same holds of the entries. -/
theorem entries_append_comma {s : List Char} (h : openQuote none s = none) (t : List Char) :
    entries (s ++ ',' :: t) = entries s ++ entries t := by
  rw [entries, pieces_append_comma h, List.map_append, List.filter_append]
  rfl

theorem ne_comma_of_blank {c : Char} (h : isBlank c = true) : c ≠ ',' := by
  rintro rfl
  exact absurd h (by decide)

theorem not_quote_of_blank {c : Char} (h : isBlank c = true) : isQuote c = false := by
  cases hq : isQuote c with
  | false => rfl
  | true =>
    rw [isQuote, Bool.or_eq_true, beq_iff_eq, beq_iff_eq] at hq
    rcases hq with rfl | rfl
    · exact absurd h (by decide)
    · exact absurd h (by decide)

theorem plain_of_blanks {b : List Char} (h : Blanks b) :
    ∀ c ∈ b, c ≠ ',' ∧ isQuote c = false :=
  fun c hc => ⟨ne_comma_of_blank (h c hc), not_quote_of_blank (h c hc)⟩

/-- Blanks in front of a text go to its first piece. -/
theorem pieces_blanks_append {b : List Char} (hb : Blanks b) (s : List Char) :
    ∃ p ps, pieces none s = p :: ps ∧ pieces none (b ++ s) = (b ++ p) :: ps := by
  induction b with
  | nil =>
    cases hp : pieces none s with
    | nil => exact absurd hp (pieces_ne_nil _ _)
    | cons p ps => exact ⟨p, ps, rfl, hp⟩
  | cons c b ih =>
    have hc : isBlank c = true := hb c List.mem_cons_self
    obtain ⟨p, ps, h1, h2⟩ := ih fun d hd => hb d (List.mem_cons_of_mem _ hd)
    refine ⟨p, ps, h1, ?_⟩
    rw [List.cons_append, pieces, if_neg fun h => ne_comma_of_blank hc h.2,
      stepQuote_of_plain (not_quote_of_blank hc), h2]
    rfl

/-- Blanks after a text go to its last piece. -/
theorem pieces_append_blanks (quote : Option Char) (s : List Char) {b : List Char}
    (hb : Blanks b) :
    ∃ ps p, pieces quote s = ps ++ [p] ∧ pieces quote (s ++ b) = ps ++ [p ++ b] := by
  induction s generalizing quote with
  | nil =>
    refine ⟨[], [], rfl, pieces_of_whole (whole_of_no_comma ?_)⟩
    intro hmem
    exact ne_comma_of_blank (hb _ hmem) rfl
  | cons c s ih =>
    rw [List.cons_append, pieces, pieces]
    by_cases hc : quote = none ∧ c = ','
    · obtain ⟨ps, p, h1, h2⟩ := ih none
      refine ⟨[] :: ps, p, ?_, ?_⟩
      · rw [if_pos hc, h1, List.cons_append]
      · rw [if_pos hc, h2, List.cons_append]
    · obtain ⟨ps, p, h1, h2⟩ := ih (stepQuote quote c)
      rw [if_neg hc, if_neg hc, h1, h2]
      cases ps with
      | nil => exact ⟨[], c :: p, rfl, rfl⟩
      | cons p' ps => exact ⟨(c :: p') :: ps, p, rfl, rfl⟩

/-! ## Trimming before the scan -/

/-- Blanks leave the open quote as it is. -/
theorem openQuote_blanks {quote : Option Char} {b : List Char} (hb : Blanks b)
    (hq : ∀ q, quote = some q → isQuote q = true) : openQuote quote b = quote := by
  cases quote with
  | none => exact openQuote_none_of_no_quote fun c hc => not_quote_of_blank (hb c hc)
  | some q =>
    refine (inside_quotes fun hmem => ?_).1
    have hno := not_quote_of_blank (hb q hmem)
    rw [hq q rfl] at hno
    exact Bool.noConfusion hno

theorem openQuote_strip (s : List Char) : openQuote none (strip s) = openQuote none s := by
  obtain ⟨a, b, ha, hb, hs⟩ := exists_strip s
  have hfirst : openQuote none a = none := openQuote_blanks ha (by simp)
  conv => rhs; rw [hs, openQuote_append, openQuote_append, hfirst]
  refine (openQuote_blanks hb fun q hq => ?_).symm
  rcases isQuote_of_openQuote hq with h | h
  · exact absurd h (by simp)
  · exact h

/-- Trimming a text beforehand does not change its entries. -/
theorem entries_strip (s : List Char) : entries (strip s) = entries s := by
  obtain ⟨a, b, ha, hb, hs⟩ := exists_strip s
  have hfront : (pieces none (a ++ strip s)).map strip = (pieces none (strip s)).map strip := by
    obtain ⟨p, ps, h1, h2⟩ := pieces_blanks_append ha (strip s)
    rw [h1, h2, List.map_cons, List.map_cons]
    have hp := strip_append ha p (b := []) Blanks.nil
    rw [List.append_nil] at hp
    rw [hp]
  have hback : (pieces none (a ++ strip s ++ b)).map strip
      = (pieces none (a ++ strip s)).map strip := by
    obtain ⟨ps, p, h1, h2⟩ := pieces_append_blanks none (a ++ strip s) hb
    rw [h1, h2, List.map_append, List.map_append]
    have hp := strip_append (a := []) Blanks.nil p hb
    rw [List.nil_append] at hp
    rw [List.map_singleton, List.map_singleton, hp]
  unfold entries
  conv => rhs; rw [hs, hback, hfront]

/-! ## Cutting an entry -/

/-- A text is cut at the first occurrence of a character. -/
theorem cut_eq_iff {c : Char} {s a b : List Char} :
    (s.takeWhile (· != c) = a ∧ s.dropWhile (· != c) = c :: b) ↔ s = a ++ c :: b ∧ c ∉ a := by
  constructor
  · rintro ⟨rfl, hb⟩
    refine ⟨?_, fun hmem => ?_⟩
    · rw [← hb, List.takeWhile_append_dropWhile]
    · exact absurd (List.mem_takeWhile_imp hmem) (by simp)
  · rintro ⟨rfl, hc⟩
    have hall : ∀ d ∈ a, (d != c) = true := by
      intro d hd
      rw [bne_iff_ne]
      rintro rfl
      exact hc hd
    rw [List.takeWhile_append_of_pos hall, List.dropWhile_append_of_pos hall]
    simp

theorem span_of_not_mem {x : Char} {a : List Char} (h : x ∉ a) (b : List Char) :
    (a ++ x :: b).span (· != x) = (a, x :: b) := by
  obtain ⟨htake, hdrop⟩ := cut_eq_iff.mpr ⟨rfl, h⟩
  rw [List.span_eq_takeWhile_dropWhile, htake, hdrop]

/-- An entry is cut at its first colon. -/
theorem entry?_cut {x : List Char} (h : ':' ∉ x) (y : List Char) :
    entry? (x ++ ':' :: y)
      = if strip x = [] then none else some (String.ofList (strip x), strip y) := by
  unfold entry?
  rw [span_of_not_mem h]

theorem entry?_of_no_colon {s : List Char} (h : ':' ∉ s) : entry? s = none := by
  have hnil : s.dropWhile (· != ':') = [] := by
    rw [List.dropWhile_eq_nil_iff]
    intro c hc
    rw [bne_iff_ne]
    rintro rfl
    exact h hc
  unfold entry?
  rw [List.span_eq_takeWhile_dropWhile, hnil]

theorem not_mem_of_blanks {b : List Char} (h : Blanks b) {x : Char} (hx : isBlank x = false) :
    x ∉ b := by
  intro hmem
  rw [h x hmem] at hx
  exact Bool.noConfusion hx

/-- Blanks around an entry do not count. -/
theorem entry?_strip (s : List Char) : entry? (strip s) = entry? s := by
  obtain ⟨a, b, ha, hb, hs⟩ := exists_strip s
  have hcolon : isBlank ':' = false := by decide
  by_cases h : ':' ∈ strip s
  · obtain ⟨x, y, heq, hx⟩ := List.eq_append_cons_of_mem h
    have hcut : s = (a ++ x) ++ ':' :: (y ++ b) := by
      conv => lhs; rw [hs, heq]
      simp only [List.append_assoc, List.cons_append]
    have hax : ':' ∉ a ++ x := by
      rw [List.mem_append, not_or]
      exact ⟨not_mem_of_blanks ha hcolon, hx⟩
    have hkey := strip_append ha x (b := []) Blanks.nil
    have hval := strip_append (a := []) Blanks.nil y hb
    rw [List.append_nil] at hkey
    rw [List.nil_append] at hval
    rw [heq, entry?_cut hx]
    conv => rhs; rw [hcut, entry?_cut hax, hkey, hval]
  · have hno : ':' ∉ s := by
      rw [hs, List.mem_append, List.mem_append, not_or, not_or]
      exact ⟨⟨not_mem_of_blanks ha hcolon, h⟩, not_mem_of_blanks hb hcolon⟩
    rw [entry?_of_no_colon h, entry?_of_no_colon hno]

/-! ## Literals -/

/-- A text between braces. -/
def braced (body : String) : String := "\x7b" ++ body ++ "\x7d"

@[simp] theorem toList_braced (body : String) :
    (braced body).toList = '\x7b' :: (body.toList ++ ['\x7d']) := by
  simp [braced]

theorem dropBraces_braced (s : List Char) :
    dropBraces (strip ('\x7b' :: (s ++ ['\x7d']))) = s := by
  have htrim : Trimmed ('\x7b' :: (s ++ ['\x7d'])) := by
    refine ⟨fun c hc => ?_, fun c hc => ?_⟩
    · obtain rfl := Option.some.inj hc
      decide
    · rw [← List.cons_append, List.getLast?_concat] at hc
      obtain rfl := Option.some.inj hc
      decide
  rw [strip_of_trimmed htrim]
  unfold dropBraces
  rw [List.head?_cons, if_pos rfl, List.tail_cons]
  dsimp only
  rw [List.getLast?_concat, if_pos rfl, List.dropLast_concat]

/-- The map of the entries of a text, if none of their values has too many digits. -/
def denoted (body : List Char) : Except Decimal.LongNumeral Properties :=
  (pairs (entries body)).map OrderedMap.ofList

/-- A text between braces denotes the map of its entries, unless it leaves a quote open. -/
theorem parse_braced (body : String) :
    parse (braced body) =
      match openQuote none body.toList with
      | some q => .error (.reported (.unclosedQuote q (trim body)))
      | none => (denoted body.toList).mapError .longNumeral := by
  unfold parse splitEntries
  rw [toList_braced, dropBraces_braced]
  dsimp only
  rw [String.toList_ofList, openQuote_strip]
  cases openQuote none body.toList with
  | some q => rfl
  | none =>
    have htexts : ((entries (strip body.toList)).map String.ofList).map String.toList
        = entries body.toList := by
      rw [entries_strip, List.map_map]
      exact List.map_id'' (fun e => String.toList_ofList) _
    dsimp only [Except.mapError, bind, Except.bind]
    rw [htexts]
    unfold denoted
    cases pairs (entries body.toList) <;> rfl

end PropertyGraph.Literal
