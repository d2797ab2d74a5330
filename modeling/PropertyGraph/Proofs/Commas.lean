import Mathlib.Data.List.Induction
import PropertyGraph.Proofs.Entries

/-!
# Entries between commas

A quote opens a string, which goes on to the next quote of the same kind; what stands between
strings is plain. A text is balanced if it consists of plain characters and of strings; any other
text ends inside a string, `balanced_or_dangling`. The scan, which carries nothing but the quote
that is open, tells the two apart.

The entries of a text stand between its commas outside strings. `DividesAtCommas` says what this
comes to for a way of dividing texts, without mention of a scan. There is no choice left: two ways
for which it holds agree on every text, `DividesAtCommas.unique`.
-/

namespace PropertyGraph.Literal

open Text

variable {s t : List Char} {q : Char}

/-! ## Strings in a text -/

/-- A text of plain characters and of strings, each of which ends with the quote it starts with. -/
inductive Balanced : List Char → Prop where
  | nil : Balanced []
  | plain {c : Char} {s : List Char} (hc : isQuote c = false) (hs : Balanced s) : Balanced (c :: s)
  | quoted {q : Char} {t s : List Char} (hq : isQuote q = true) (ht : q ∉ t) (hs : Balanced s) :
    Balanced (q :: (t ++ q :: s))

/-- A text that ends inside a string, which a quote after a balanced text has opened. -/
inductive Dangling (q : Char) : List Char → Prop where
  | intro {s t : List Char} (hs : Balanced s) (hq : isQuote q = true) (ht : q ∉ t) :
    Dangling q (s ++ q :: t)

/-- A text in which every comma stands inside a string: what comes before it is not balanced. -/
def CommasQuoted (s : List Char) : Prop := ∀ a b, s = a ++ ',' :: b → ¬ Balanced a

theorem Balanced.append (hs : Balanced s) (ht : Balanced t) : Balanced (s ++ t) := by
  induction hs with
  | nil => exact ht
  | plain hc _ ih => exact .plain hc ih
  | @quoted q r s hq hr _ ih =>
    rw [List.cons_append, List.append_assoc, List.cons_append]
    exact .quoted hq hr ih

/-- **A text that is not balanced ends inside a string.** -/
theorem balanced_or_dangling (s : List Char) : Balanced s ∨ ∃ q, Dangling q s := by
  induction s using List.reverseRecOn with
  | nil => exact Or.inl .nil
  | append_singleton s c ih =>
    rcases ih with hs | ⟨q, hs⟩
    · -- outside strings a quote opens one
      cases hc : isQuote c with
      | false => exact Or.inl (hs.append (.plain hc .nil))
      | true => exact Or.inr ⟨c, .intro hs hc List.not_mem_nil⟩
    · -- inside a string only the quote that has opened it matters
      cases hs with
      | @intro s t hs hq ht =>
        rw [List.append_assoc, List.cons_append]
        by_cases hc : c = q
        · subst hc
          exact Or.inl (hs.append (.quoted hq ht .nil))
        · refine Or.inr ⟨q, .intro hs hq ?_⟩
          rw [List.mem_append, List.mem_singleton, not_or]
          exact ⟨ht, Ne.symm hc⟩

/-! ## What the scan tells -/

theorem Balanced.closed (h : Balanced s) : openQuote none s = none := by
  induction h with
  | nil => rfl
  | plain hc _ ih => rw [openQuote_cons, stepQuote_of_plain hc, ih]
  | quoted hq ht _ ih => rw [openQuote_quoted hq ht, ih]

theorem Dangling.opened (h : Dangling q s) : openQuote none s = some q := by
  cases h with
  | intro hs hq ht =>
    have hopen : stepQuote none q = some q := by rw [stepQuote, if_pos hq]
    rw [openQuote_append, hs.closed, openQuote_cons, hopen, (inside_quotes ht).1]

theorem balanced_iff : Balanced s ↔ openQuote none s = none := by
  refine ⟨Balanced.closed, fun hclosed => ?_⟩
  rcases balanced_or_dangling s with hs | ⟨q, hs⟩
  · exact hs
  · exact absurd (hs.opened.symm.trans hclosed) (by simp)

theorem dangling_iff : Dangling q s ↔ openQuote none s = some q := by
  refine ⟨Dangling.opened, fun hopened => ?_⟩
  rcases balanced_or_dangling s with hs | ⟨p, hs⟩
  · exact absurd (hs.closed.symm.trans hopened) (by simp)
  · obtain rfl : p = q := Option.some.inj (hs.opened.symm.trans hopened)
    exact hs

/-- A comma after a balanced text does not count for the scan. -/
theorem Balanced.openQuote_append_comma (hs : Balanced s) (t : List Char) :
    Literal.openQuote none (s ++ ',' :: t) = Literal.openQuote none t := by
  rw [openQuote_append, hs.closed, openQuote_cons, stepQuote_of_plain (by decide)]

theorem Balanced.balanced_append_comma_iff (hs : Balanced s) :
    Balanced (s ++ ',' :: t) ↔ Balanced t := by
  rw [balanced_iff, balanced_iff, hs.openQuote_append_comma]

theorem Balanced.dangling_append_comma_iff (hs : Balanced s) :
    Dangling q (s ++ ',' :: t) ↔ Dangling q t := by
  rw [dangling_iff, dangling_iff, hs.openQuote_append_comma]

/-- A text is whole if before each of its commas a quote is open. -/
theorem whole_iff {quote : Option Char} :
    Whole quote s ↔ ∀ a b, s = a ++ ',' :: b → openQuote quote a ≠ none := by
  induction s generalizing quote with
  | nil => simp [Whole]
  | cons c s ih =>
    rw [Whole, ih]
    constructor
    · rintro ⟨hc, hs⟩ a b heq
      cases a with
      | nil => exact fun hq => hc ⟨hq, (List.cons.inj heq).1⟩
      | cons d a =>
        obtain ⟨rfl, hrest⟩ := List.cons.inj heq
        exact hs a b hrest
    · intro h
      refine ⟨?_, fun a b heq => ?_⟩
      · rintro ⟨hq, rfl⟩
        exact h [] s rfl hq
      · exact h (c :: a) b (by rw [heq, List.cons_append])

theorem commasQuoted_iff : CommasQuoted s ↔ Whole none s := by
  unfold CommasQuoted
  simp only [whole_iff, balanced_iff, ne_eq]

/-! ## Entries -/

/-- The pieces of a text that leaves no string open leave none open, and no comma divides them. -/
theorem exists_pieces {quote : Option Char} (h : openQuote quote s = none) :
    ∃ p ps, pieces quote s = p :: ps ∧ Whole quote p ∧ openQuote quote p = none
      ∧ ∀ p' ∈ ps, IsPiece p' := by
  induction s generalizing quote with
  | nil => exact ⟨[], [], rfl, trivial, h, by simp⟩
  | cons c s ih =>
    rw [openQuote_cons] at h
    obtain ⟨p, ps, heq, hwhole, hclosed, hps⟩ := ih h
    rw [pieces]
    by_cases hc : quote = none ∧ c = ','
    · obtain ⟨rfl, rfl⟩ := hc
      -- the comma ends an empty piece, and the first piece after it is one of the others
      rw [stepQuote_of_plain (by decide)] at heq hwhole hclosed
      rw [if_pos ⟨rfl, rfl⟩, heq]
      exact ⟨[], p :: ps, rfl, trivial, rfl, List.forall_mem_cons.mpr ⟨⟨hclosed, hwhole⟩, hps⟩⟩
    · rw [if_neg hc, heq]
      exact ⟨c :: p, ps, rfl, ⟨hc, hwhole⟩, hclosed, hps⟩

/-- A piece without the blanks around it is one. -/
theorem IsPiece.strip (h : IsPiece s) : IsPiece (strip s) := by
  obtain ⟨a, b, ha, -, hs⟩ := exists_strip s
  have hwhole := h.whole
  rw [hs, List.append_assoc] at hwhole
  refine ⟨(openQuote_strip s).trans h.closed, ?_⟩
  have hrest := (whole_append.mp hwhole).2
  rw [openQuote_blanks ha (by simp)] at hrest
  exact (whole_append.mp hrest).1

/-- An entry is trimmed and not empty, and it is its own only entry. -/
theorem entries_of_mem (h : openQuote none s = none) {e : List Char} (he : e ∈ entries s) :
    e ≠ [] ∧ Trimmed e ∧ openQuote none e = none ∧ entries e = [e] := by
  obtain ⟨p, ps, heq, hwhole, hclosed, hps⟩ := exists_pieces h
  obtain ⟨hmem, hne⟩ := List.mem_filter.mp he
  obtain ⟨r, hr, rfl⟩ := List.mem_map.mp hmem
  have hpiece : IsPiece r := by
    rw [heq] at hr
    exact List.forall_mem_cons.mpr ⟨⟨hclosed, hwhole⟩, hps⟩ r hr
  have hne : strip r ≠ [] := by simpa using hne
  refine ⟨hne, strip_trimmed r, hpiece.strip.closed, ?_⟩
  rw [entries_of_whole hpiece.strip.whole, strip_of_trimmed (strip_trimmed r), if_neg hne]

theorem splitEntries_of_balanced {s : String} (h : Balanced s.toList) :
    splitEntries s = .ok ((entries s.toList).map String.ofList) := by
  unfold splitEntries
  rw [h.closed]

theorem splitEntries_of_dangling {s : String} (h : Dangling q s.toList) :
    splitEntries s = .error (.unclosedQuote q s) := by
  unfold splitEntries
  rw [h.opened]

theorem splitEntries_eq_error_iff {s : String} {f : Command.Fault} :
    splitEntries s = .error f ↔ ∃ q, Dangling q s.toList ∧ f = .unclosedQuote q s := by
  constructor
  · intro h
    rcases balanced_or_dangling s.toList with hs | ⟨q, hs⟩
    · exact absurd ((splitEntries_of_balanced hs).symm.trans h) (by simp)
    · exact ⟨q, hs, (Except.error.inj ((splitEntries_of_dangling hs).symm.trans h)).symm⟩
  · rintro ⟨q, hs, rfl⟩
    exact splitEntries_of_dangling hs

theorem balanced_of_splitEntries {s : String} {es : List String} (h : splitEntries s = .ok es) :
    Balanced s.toList := by
  rcases balanced_or_dangling s.toList with hs | ⟨q, hs⟩
  · exact hs
  · exact absurd ((splitEntries_of_dangling hs).symm.trans h) (by simp)

theorem toList_append_comma (a b : String) :
    (a ++ "," ++ b).toList = a.toList ++ ',' :: b.toList := by
  simp

theorem splitEntries_append_comma {a : String} (ha : Balanced a.toList) {b : String}
    {fs : List String} (hb : splitEntries b = .ok fs) :
    splitEntries (a ++ "," ++ b) = .ok ((entries a.toList).map String.ofList ++ fs) := by
  have hb' := balanced_of_splitEntries hb
  have hab : Balanced (a ++ "," ++ b).toList := by
    rwa [toList_append_comma, ha.balanced_append_comma_iff]
  obtain rfl := Except.ok.inj ((splitEntries_of_balanced hb').symm.trans hb)
  rw [splitEntries_of_balanced hab, toList_append_comma, entries_append_comma ha.closed,
    List.map_append]

theorem splitEntries_of_mem {s : String} {es : List String} (h : splitEntries s = .ok es)
    {e : String} (he : e ∈ es) : e ≠ "" ∧ Trimmed e.toList ∧ splitEntries e = .ok [e] := by
  have hs := balanced_of_splitEntries h
  obtain rfl := Except.ok.inj ((splitEntries_of_balanced hs).symm.trans h)
  obtain ⟨r, hr, rfl⟩ := List.mem_map.mp he
  obtain ⟨hne, htrim, hclosed, hself⟩ := entries_of_mem hs.closed hr
  refine ⟨mt String.ofList_eq_empty_iff.mp hne, by rwa [String.toList_ofList], ?_⟩
  rw [splitEntries_of_balanced (by rwa [String.toList_ofList, balanced_iff]), String.toList_ofList,
    hself, List.map_singleton]

/-! ## Ways of dividing texts -/

/-- A balanced text has its commas quoted, or a comma comes between two balanced texts. -/
theorem exists_joined {s : String} (hs : Balanced s.toList) (h : ¬ CommasQuoted s.toList) :
    ∃ a b : String, s = a ++ "," ++ b ∧ Balanced a.toList ∧ Balanced b.toList := by
  unfold CommasQuoted at h
  push Not at h
  obtain ⟨a, b, heq, ha⟩ := h
  rw [heq, ha.balanced_append_comma_iff] at hs
  refine ⟨String.ofList a, String.ofList b, ?_, ?_, ?_⟩
  · rw [← String.toList_inj, heq]
    simp
  · rwa [String.toList_ofList]
  · rwa [String.toList_ofList]

/-- What a way of dividing texts at their commas is to be. -/
structure DividesAtCommas (split : String → Except Command.Fault (List String)) : Prop where
  /-- A text is refused if it leaves a string open, and the fault tells with which quote. -/
  refused : ∀ s f, split s = .error f ↔ ∃ q, Dangling q s.toList ∧ f = .unclosedQuote q s
  /-- A text without commas outside strings is one entry, trimmed, or none if it is blank. -/
  single : ∀ s, Balanced s.toList → CommasQuoted s.toList →
    split s = .ok (if isBlankText s then [] else [trim s])
  /-- The entries before a comma outside strings and those after it are the entries of the whole,
  which is refused exactly if what is after the comma is. -/
  joined : ∀ a b, Balanced a.toList → ∃ es, split a = .ok es
    ∧ (∀ fs, split b = .ok fs → split (a ++ "," ++ b) = .ok (es ++ fs))
    ∧ ((∃ f, split (a ++ "," ++ b) = .error f) ↔ ∃ f, split b = .error f)
  /-- Every entry is trimmed and not empty, and it is its own only entry. -/
  entry : ∀ s es, split s = .ok es → ∀ e ∈ es, e ≠ "" ∧ Trimmed e.toList ∧ split e = .ok [e]

theorem DividesAtCommas.exists_ok {split : String → Except Command.Fault (List String)}
    (h : DividesAtCommas split) {s : String} (hs : Balanced s.toList) :
    ∃ es, split s = .ok es := by
  cases hes : split s with
  | ok es => exact ⟨es, rfl⟩
  | error f =>
    obtain ⟨q, hq, -⟩ := (h.refused s f).mp hes
    exact absurd (hs.closed.symm.trans hq.opened) (by simp)

/-- **The laws leave no choice.** Two ways of dividing texts for which they hold are the same. -/
theorem DividesAtCommas.unique {split split' : String → Except Command.Fault (List String)}
    (h : DividesAtCommas split) (h' : DividesAtCommas split') (s : String) :
    split s = split' s := by
  induction hn : s.toList.length using Nat.strong_induction_on generalizing s with
  | h n ih =>
    rcases balanced_or_dangling s.toList with hs | ⟨q, hs⟩
    · by_cases hcommas : CommasQuoted s.toList
      · rw [h.single s hs hcommas, h'.single s hs hcommas]
      · -- the texts on both sides of a comma outside strings are shorter
        obtain ⟨a, b, rfl, ha, hb⟩ := exists_joined hs hcommas
        simp only [String.toList_append, List.length_append] at hn
        have hcomma : ",".toList.length = 1 := rfl
        have hfirst := ih _ (by omega) a rfl
        have hsecond := ih _ (by omega) b rfl
        obtain ⟨es, hes, hjoined, -⟩ := h.joined a b ha
        obtain ⟨es', hes', hjoined', -⟩ := h'.joined a b ha
        obtain rfl : es = es' := Except.ok.inj (hes.symm.trans (hfirst.trans hes'))
        obtain ⟨fs, hfs⟩ := h.exists_ok hb
        rw [hjoined fs hfs, hjoined' fs (hsecond.symm.trans hfs)]
    · rw [(h.refused s _).mpr ⟨q, hs, rfl⟩, (h'.refused s _).mpr ⟨q, hs, rfl⟩]

/--
**A text is divided at its commas outside strings.** Such a comma comes between the entries of what
is before it and the entries of what is after it; a text that has none is one entry, trimmed, or no
entry if it is blank; an entry is divided no further. A text is refused exactly if it ends inside a
string. Nothing else divides texts in this way.
-/
theorem splitEntries_dividesAtCommas :
    DividesAtCommas splitEntries ∧ ∀ split, DividesAtCommas split → split = splitEntries := by
  have hdivides : DividesAtCommas splitEntries := by
    constructor
    case refused => exact fun s f => splitEntries_eq_error_iff
    case single =>
      intro s hs hcommas
      rw [splitEntries_of_balanced hs, entries_of_whole (commasQuoted_iff.mp hcommas)]
      have hblank : isBlankText s = true ↔ strip s.toList = [] :=
        isBlankText_eq_true_iff.trans strip_eq_nil_iff.symm
      by_cases h : strip s.toList = []
      · rw [if_pos h, if_pos (hblank.mpr h), List.map_nil]
      · rw [if_neg h, if_neg (mt hblank.mp h), List.map_singleton]
        rfl
    case joined =>
      intro a b ha
      refine ⟨_, splitEntries_of_balanced ha, fun fs hfs => splitEntries_append_comma ha hfs, ?_⟩
      simp [splitEntries_eq_error_iff, ha.dangling_append_comma_iff]
    case entry => exact fun s es h e he => splitEntries_of_mem h he
  exact ⟨hdivides, fun split h => funext (h.unique hdivides)⟩

/-- A comma in a string that has the other quote in it, and a text with an empty entry. -/
theorem splitEntries_dividesAtCommas_quoted :
    Balanced "q: \"it's, so\"".toList ∧ splitEntries " n: 1,, " = .ok ["n: 1"]
      ∧ splitEntries "q: \"it's, so\", n: 1,, " = .ok ["q: \"it's, so\"", "n: 1"] := by
  have hbalanced : Balanced "q: \"it's, so\"".toList := balanced_iff.mpr (by decide)
  obtain ⟨es, hes, hjoined, -⟩ := splitEntries_dividesAtCommas.1.joined _ " n: 1,, " hbalanced
  have hfirst : splitEntries "q: \"it's, so\"" = .ok ["q: \"it's, so\""] := by decide
  have hsecond : splitEntries " n: 1,, " = .ok ["n: 1"] := by decide
  obtain rfl := Except.ok.inj (hes.symm.trans hfirst)
  exact ⟨hbalanced, hsecond, hjoined _ hsecond⟩

end PropertyGraph.Literal
