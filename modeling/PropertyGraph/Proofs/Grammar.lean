import Mathlib.Computability.Language
import PropertyGraph.Command.Shape
import PropertyGraph.Proofs.CharClass
import PropertyGraph.Proofs.Entries

/-!
# The parts of a line as languages

A part of a command line is a language: a keyword in any case, blanks, a symbol, a name, and the
parts that may be missing. A line is a product of them. Each reader of a part takes the part off the
front of a product, and there is one way only to do so: no word character is a blank, and each mark
after a name, or after the blanks around one, is neither. So a product is read from the left, one
lemma for each part, and what is left is in the product of the rest.
-/

namespace PropertyGraph.Grammar

open Text Shape
open Literal (braced toList_braced cut_eq_iff)

/-! ## The languages -/

/-- The texts that satisfy a condition. -/
def texts (p : List Char → Prop) : Language Char := {s | p s}

@[simp] theorem mem_texts {p : List Char → Prop} {s : List Char} : s ∈ texts p ↔ p s := Iff.rfl

def blanks : Language Char := texts Blanks

/-- Blanks, at least one. -/
def gap : Language Char := texts fun s => Blanks s ∧ s ≠ []

def symbol (c : Char) : Language Char := {[c]}

/-- A keyword, given in lower case, in any case. -/
def keyword (w : String) : Language Char := texts fun s => s.map Char.toLower = w.toList

/-- A run of word characters, which may be empty. -/
def word (n : String) : Language Char := texts fun s => s = n.toList ∧ ∀ c ∈ s, isWord c = true

def name (n : String) : Language Char :=
  texts fun s => s = n.toList ∧ s ≠ [] ∧ ∀ c ∈ s, isWord c = true

/-- What can follow a word. -/
def boundary : Language Char := texts fun s => continuesWord s = false

/-- A type after a colon, or nothing. -/
def typed : Option String → Language Char
  | none => 1
  | some type => symbol ':' * blanks * name type * blanks

/-- A text between braces that holds no closing brace, or nothing. -/
def literal : Option String → Language Char
  | none => 1
  | some body => texts fun s => s = (braced body).toList ∧ '\x7d' ∉ body.toList

variable {s t : List Char} {M : Language Char} {c : Char} {n w : String}

/-! ## Blanks -/

theorem mem_symbol_mul : s ∈ symbol c * M ↔ ∃ r ∈ M, s = c :: r := by
  rw [Language.mem_mul]
  constructor
  · rintro ⟨_, rfl, r, hr, rfl⟩
    exact ⟨r, hr, rfl⟩
  · rintro ⟨r, hr, rfl⟩
    exact ⟨[c], rfl, r, hr, rfl⟩

theorem mem_blanks_mul : s ∈ blanks * M ↔ ∃ b r, Blanks b ∧ r ∈ M ∧ s = b ++ r := by
  rw [Language.mem_mul]
  constructor
  · rintro ⟨b, hb, r, hr, rfl⟩
    exact ⟨b, r, hb, hr, rfl⟩
  · rintro ⟨b, r, hb, hr, rfl⟩
    exact ⟨b, hb, r, hr, rfl⟩

theorem mem_blanks : s ∈ blanks ↔ stripLeft s = [] :=
  (List.dropWhile_eq_nil_iff (p := isBlank) (l := s)).symm

theorem blanks_mul_blanks : blanks * blanks = blanks := by
  ext s
  rw [mem_blanks_mul]
  constructor
  · rintro ⟨b, r, hb, hr, rfl⟩
    exact Blanks.append hb hr
  · intro hs
    exact ⟨s, [], hs, Blanks.nil, (List.append_nil s).symm⟩

theorem blanks_mul_blanks_mul : blanks * (blanks * M) = blanks * M := by
  rw [← mul_assoc, blanks_mul_blanks]

/-- Blanks in front of a text do not count where blanks may stand. -/
theorem mem_blanks_mul_of_stripLeft (h : stripLeft s ∈ M) : s ∈ blanks * M := by
  obtain ⟨b, hb, hs⟩ := exists_stripLeft s
  exact mem_blanks_mul.mpr ⟨b, stripLeft s, hb, h, hs⟩

/-- A text of a language whose texts start with no blank, after blanks. -/
theorem mem_blanks_mul_iff (h : ∀ r ∈ M, stripLeft r = r) :
    s ∈ blanks * M ↔ stripLeft s ∈ M := by
  refine ⟨fun hs => ?_, mem_blanks_mul_of_stripLeft⟩
  obtain ⟨b, r, hb, hr, rfl⟩ := mem_blanks_mul.mp hs
  rwa [stripLeft_append hb, h r hr]

/-- Nothing but blanks can follow where a trimmed text ends. -/
theorem mem_mul_blanks_iff (h : Trimmed t) : t ∈ M * blanks ↔ t ∈ M := by
  rw [Language.mem_mul]
  constructor
  · rintro ⟨a, ha, b, hb, rfl⟩
    rcases List.eq_nil_or_concat b with rfl | ⟨b, c, rfl⟩
    · rwa [List.append_nil]
    · have hblank : isBlank c = true := hb c (by simp)
      rw [h.last c (by simp)] at hblank
      exact Bool.noConfusion hblank
  · intro ht
    exact ⟨t, ht, [], Blanks.nil, List.append_nil t⟩

/-! ## Symbols and keywords -/

theorem stripLeft_of_symbol (hc : isBlank c = false) : ∀ r ∈ symbol c * M, stripLeft r = r := by
  intro r hr
  obtain ⟨r, -, rfl⟩ := mem_symbol_mul.mp hr
  exact stripLeft_of_head hc

theorem symbol?_eq_some_iff {r : List Char} : symbol? c s = some r ↔ stripLeft s = c :: r := by
  unfold symbol?
  cases stripLeft s with
  | nil => simp
  | cons d u =>
    dsimp only
    by_cases hd : d = c
    · rw [if_pos hd, hd]
      simp
    · rw [if_neg hd]
      simp [hd]

@[simp] theorem symbol?_stripLeft : symbol? c (stripLeft s) = symbol? c s := by
  unfold symbol?
  rw [stripLeft_stripLeft]

/-- A symbol is read off the front of a line. -/
theorem mem_blanks_symbol_mul (hc : isBlank c = false) :
    s ∈ blanks * (symbol c * M) ↔ ∃ r, symbol? c s = some r ∧ r ∈ M := by
  rw [mem_blanks_mul_iff (stripLeft_of_symbol hc), mem_symbol_mul]
  simp only [symbol?_eq_some_iff]
  constructor
  · rintro ⟨r, hr, hs⟩
    exact ⟨r, hs, hr⟩
  · rintro ⟨r, hs, hr⟩
    exact ⟨r, hr, hs⟩

theorem dropLetters?_eq_some_iff {ks : List Char} {r : List Char} :
    dropLetters? ks s = some r ↔ ∃ a, a.map Char.toLower = ks ∧ s = a ++ r := by
  induction ks generalizing s with
  | nil =>
    rw [dropLetters?, Option.some.injEq]
    simp
  | cons k ks ih =>
    cases s with
    | nil =>
      refine ⟨fun h => absurd h (by simp [dropLetters?]), ?_⟩
      rintro ⟨a, ha, hs⟩
      obtain ⟨rfl, rfl⟩ := List.append_eq_nil_iff.mp hs.symm
      exact absurd ha (by simp)
    | cons d s =>
      rw [dropLetters?]
      constructor
      · intro h
        by_cases hd : isLetter k d = true
        · rw [if_pos hd] at h
          obtain ⟨a, ha, rfl⟩ := ih.mp h
          rw [isLetter, beq_iff_eq] at hd
          exact ⟨d :: a, by rw [List.map_cons, hd, ha], rfl⟩
        · rw [if_neg hd] at h
          exact absurd h (by simp)
      · rintro ⟨a, ha, hs⟩
        cases a with
        | nil => exact absurd ha (by simp)
        | cons e a =>
          rw [List.map_cons, List.cons.injEq] at ha
          rw [List.cons_append, List.cons.injEq] at hs
          obtain ⟨rfl, hs⟩ := hs
          rw [isLetter, if_pos (beq_iff_eq.mpr ha.1)]
          exact ih.mpr ⟨a, ha.2, hs⟩

/-- A keyword is read off the front of a line. -/
theorem mem_keyword_mul : s ∈ keyword w * M ↔ ∃ r, keyword? w s = some r ∧ r ∈ M := by
  unfold keyword?
  simp only [dropLetters?_eq_some_iff]
  rw [Language.mem_mul]
  constructor
  · rintro ⟨a, ha, r, hr, rfl⟩
    exact ⟨r, ⟨a, ha, rfl⟩, hr⟩
  · rintro ⟨r, ⟨a, ha, rfl⟩, hr⟩
    exact ⟨a, ha, r, hr, rfl⟩

/-- Blanks have no case. -/
theorem toLower_of_blank (h : isBlank c = true) : c.toLower = c := by
  unfold Char.toLower
  refine dif_neg fun hc => ?_
  have hval : c.toNat = c.val.toNat := rfl
  rw [ge_iff_le, UInt32.le_iff_toNat_le, UInt32.le_iff_toNat_le] at hc
  have hlow : (65 : UInt32).toNat = 65 := rfl
  have hhigh : (90 : UInt32).toNat = 90 := rfl
  rcases blank_cases h with h | ⟨h, -⟩ <;> simp at hc <;> omega

/-- A keyword starts with no blank. -/
theorem stripLeft_of_keyword {k : Char} {ks : List Char} (hw : w.toList = k :: ks)
    (hk : isBlank k = false) : ∀ r ∈ keyword w * M, stripLeft r = r := by
  intro r hr
  obtain ⟨a, ha, r, -, rfl⟩ := Language.mem_mul.mp hr
  have hmap : a.map Char.toLower = k :: ks := ha.trans hw
  cases a with
  | nil => exact absurd hmap (by simp)
  | cons c a =>
    have hc : c.toLower = k := (List.cons.inj hmap).1
    refine stripLeft_of_head ?_
    cases hb : isBlank c with
    | false => rfl
    | true =>
      rw [toLower_of_blank hb] at hc
      rw [← hc, hb] at hk
      exact Bool.noConfusion hk

theorem mem_return_mul :
    s ∈ blanks * (keyword "return" * M) ↔ ∃ r, returnKeyword? s = some r ∧ r ∈ M := by
  rw [mem_blanks_mul_iff (stripLeft_of_keyword (w := "return") rfl (by decide)), mem_keyword_mul]
  rfl

/-! ## Names -/

/-- Languages whose texts do not go on with a word before them. -/
def Separate (M : Language Char) : Prop := ∀ r ∈ M, continuesWord r = false

/-- Languages whose texts start with what is part of no name and of no blanks around one. -/
def Marked (M : Language Char) : Prop :=
  ∀ s ∈ M, ∃ c r, s = c :: r ∧ isBlank c = false ∧ isWord c = false

theorem marked_symbol_mul (hb : isBlank c = false) (hw : isWord c = false) :
    Marked (symbol c * M) := by
  intro s hs
  obtain ⟨r, -, rfl⟩ := mem_symbol_mul.mp hs
  exact ⟨c, r, rfl, hb, hw⟩

theorem Marked.stripLeft (h : Marked M) : ∀ r ∈ M, stripLeft r = r := by
  intro r hr
  obtain ⟨c, r, rfl, hb, -⟩ := h r hr
  exact stripLeft_of_head hb

theorem separate_of_blanks {b : List Char} (hb : Blanks b) (hs : continuesWord s = false) :
    continuesWord (b ++ s) = false := by
  cases b with
  | nil => exact hs
  | cons c b =>
    show isWord c = false
    cases hw : isWord c with
    | false => rfl
    | true =>
      have hblank := not_blank_of_word hw
      rw [hb c List.mem_cons_self] at hblank
      exact Bool.noConfusion hblank

theorem continuesWord_of_stripLeft (h : continuesWord (stripLeft s) = false) :
    continuesWord s = false := by
  obtain ⟨b, hb, hs⟩ := exists_stripLeft s
  rw [hs]
  exact separate_of_blanks hb h

theorem separate_boundary : Separate boundary := fun _ hr => hr

theorem separate_blanks : Separate blanks := by
  intro r hr
  rw [← List.append_nil r]
  exact separate_of_blanks hr rfl

theorem Marked.separate (h : Marked M) : Separate (blanks * M) := by
  intro s hs
  obtain ⟨b, r, hb, hr, rfl⟩ := mem_blanks_mul.mp hs
  refine separate_of_blanks hb ?_
  obtain ⟨c, r, rfl, -, hw⟩ := h r hr
  exact hw

/-- A name extends as far as it can. -/
theorem mem_name_mul (h : Separate M) :
    s ∈ name n * M ↔ s.takeWhile isWord = n.toList ∧ n ≠ "" ∧ s.dropWhile isWord ∈ M := by
  have hne : n ≠ "" ↔ n.toList ≠ [] := not_congr String.toList_eq_nil_iff.symm
  rw [Language.mem_mul]
  constructor
  · rintro ⟨_, ⟨rfl, hn, hword⟩, r, hr, rfl⟩
    -- what follows does not go on with a word, so the run ends with the name
    have hhead : r.takeWhile isWord = [] ∧ r.dropWhile isWord = r := by
      have hstop := h r hr
      cases r with
      | nil => exact ⟨rfl, rfl⟩
      | cons c r =>
        have hc : isWord c = false := hstop
        simp [hc]
    rw [List.takeWhile_append_of_pos hword, List.dropWhile_append_of_pos hword, hhead.1, hhead.2,
      List.append_nil]
    exact ⟨rfl, hne.mpr hn, hr⟩
  · rintro ⟨htake, hn, hr⟩
    refine ⟨n.toList, ⟨rfl, hne.mp hn, fun c hc => ?_⟩, _, hr, ?_⟩
    · rw [← htake] at hc
      exact List.mem_takeWhile_imp hc
    · rw [← htake, List.takeWhile_append_dropWhile]

theorem stripLeft_of_name : ∀ r ∈ name n * M, stripLeft r = r := by
  intro r hr
  obtain ⟨a, ⟨-, hne, hword⟩, r, -, rfl⟩ := Language.mem_mul.mp hr
  cases a with
  | nil => exact absurd rfl hne
  | cons c a => exact stripLeft_of_head (not_blank_of_word (hword c List.mem_cons_self))

theorem splitName_fst_eq_iff : (splitName s).1 = n ↔ (stripLeft s).takeWhile isWord = n.toList := by
  unfold splitName
  rw [← String.toList_inj, String.toList_ofList]

/-- An empty name leaves the text as it is, but for the blanks in front. -/
theorem splitName_snd_of_empty (h : (splitName s).1 = "") : (splitName s).2 = stripLeft s := by
  have hcut := List.takeWhile_append_dropWhile (p := isWord) (l := stripLeft s)
  rw [splitName_fst_eq_iff.mp h] at hcut
  exact hcut

theorem name?_eq_some_iff {r : List Char} :
    name? s = some (n, r) ↔ splitName s = (n, r) ∧ n ≠ "" := by
  unfold name?
  dsimp only
  split
  · rename_i hnil
    refine ⟨fun hn => absurd hn (by simp), ?_⟩
    rintro ⟨hs, hn⟩
    rw [hs] at hnil
    exact absurd hnil hn
  · rename_i hne
    rw [Option.some.injEq]
    refine ⟨fun hs => ⟨hs, ?_⟩, fun hs => hs.1⟩
    rwa [(Prod.mk.inj hs).1] at hne

/-- A name is read off the front of a line. -/
theorem mem_blanks_name_mul (h : Separate M) :
    s ∈ blanks * (name n * M) ↔ ∃ r, name? s = some (n, r) ∧ r ∈ M := by
  rw [mem_blanks_mul_iff stripLeft_of_name, mem_name_mul h]
  simp only [name?_eq_some_iff, Prod.ext_iff, splitName_fst_eq_iff]
  constructor
  · rintro ⟨h1, h2, h3⟩
    exact ⟨_, ⟨⟨h1, rfl⟩, h2⟩, h3⟩
  · rintro ⟨_, ⟨⟨h1, rfl⟩, h2⟩, h3⟩
    exact ⟨h1, h2, h3⟩

theorem word_empty : word "" = 1 := by
  ext s
  rw [Language.mem_one]
  refine ⟨fun h => h.1, ?_⟩
  rintro rfl
  exact ⟨rfl, by simp⟩

theorem word_of_ne (h : n ≠ "") : word n = name n := by
  ext s
  refine ⟨fun hs => ⟨hs.1, ?_, hs.2⟩, fun hs => ⟨hs.1, hs.2.2⟩⟩
  rw [hs.1]
  exact fun hnil => h (String.toList_eq_nil_iff.mp hnil)

/-- A name that may be empty is read off the front of a line, up to the blanks after it. -/
theorem mem_blanks_word_mul (h : Marked M) :
    s ∈ blanks * (word n * (blanks * M))
      ↔ (splitName s).1 = n ∧ (splitName s).2 ∈ blanks * M := by
  by_cases hn : n = ""
  · subst hn
    rw [word_empty, one_mul, blanks_mul_blanks_mul, splitName_fst_eq_iff]
    constructor
    · intro hs
      have hm := (mem_blanks_mul_iff h.stripLeft).mp hs
      obtain ⟨c, r, hq, hb, hw⟩ := h _ hm
      unfold splitName
      refine ⟨by rw [hq]; simp [hw], ?_⟩
      have hdrop : (stripLeft s).dropWhile isWord = stripLeft s := by rw [hq]; simp [hw]
      rw [hdrop]
      exact mem_blanks_mul.mpr ⟨[], _, Blanks.nil, hm, rfl⟩
    · rintro ⟨htake, hs⟩
      have hdrop := splitName_snd_of_empty (splitName_fst_eq_iff.mpr htake)
      rw [hdrop, mem_blanks_mul_iff h.stripLeft, stripLeft_stripLeft] at hs
      exact mem_blanks_mul_of_stripLeft hs
  · rw [word_of_ne hn, mem_blanks_mul_iff stripLeft_of_name, mem_name_mul h.separate,
      splitName_fst_eq_iff]
    exact ⟨fun hs => ⟨hs.1, hs.2.2⟩, fun hs => ⟨hs.1, hn, hs.2⟩⟩

/-! ## Parts that may be missing -/

theorem symbol?_ne {d : Char} {r : List Char} (h : symbol? c s = some r) (hd : c ≠ d) :
    symbol? d s = none := by
  rw [symbol?_eq_some_iff] at h
  rw [Option.eq_none_iff_forall_ne_some]
  intro u hu
  rw [symbol?_eq_some_iff, h] at hu
  exact hd (List.cons.inj hu).1

/-- A type, or none, is read off the front of what a mark ends. -/
theorem mem_blanks_typed_mul {type : Option String} (hb : isBlank c = false)
    (hw : isWord c = false) (hc : c ≠ ':') :
    s ∈ blanks * (typed type * (symbol c * M))
      ↔ ∃ r, splitType s = some (type, r) ∧ r ∈ blanks * (symbol c * M) := by
  have hmark : Marked (symbol c * M) := marked_symbol_mul hb hw
  cases type with
  | none =>
    rw [typed, one_mul]
    constructor
    · intro hs
      obtain ⟨r, hr, -⟩ := (mem_blanks_symbol_mul hb).mp hs
      refine ⟨s, ?_, hs⟩
      unfold splitType
      rw [symbol?_ne hr hc]
    · rintro ⟨r, hr, hs⟩
      unfold splitType at hr
      cases hq : symbol? ':' s with
      | none =>
        rw [hq, Option.some.injEq, Prod.mk.injEq] at hr
        rwa [hr.2]
      | some u =>
        rw [hq] at hr
        obtain ⟨p, -, hp⟩ := Option.map_eq_some_iff.mp hr
        exact absurd hp (by simp)
  | some type =>
    simp only [typed, mul_assoc]
    rw [mem_blanks_symbol_mul (by decide)]
    simp only [mem_blanks_name_mul hmark.separate]
    unfold splitType
    constructor
    · rintro ⟨r, hr, u, hu, hs⟩
      refine ⟨u, ?_, hs⟩
      rw [hr]
      exact Option.map_eq_some_iff.mpr ⟨_, hu, rfl⟩
    · rintro ⟨u, hu, hs⟩
      cases hq : symbol? ':' s with
      | none =>
        rw [hq] at hu
        exact absurd hu (by simp)
      | some r =>
        rw [hq] at hu
        obtain ⟨⟨n, v⟩, hp, heq⟩ := Option.map_eq_some_iff.mp hu
        obtain ⟨rfl, rfl⟩ : n = type ∧ v = u := by simpa using heq
        exact ⟨r, rfl, v, hp, hs⟩

theorem splitLiteral_eq_some_iff {body : String} {r : List Char} :
    splitLiteral s = (some (braced body), r)
      ↔ symbol? '\x7b' s = some (body.toList ++ '\x7d' :: r) ∧ '\x7d' ∉ body.toList := by
  have hbraced : ∀ a : List Char,
      String.ofList ('\x7b' :: a ++ ['\x7d']) = braced body ↔ a = body.toList := by
    intro a
    rw [← String.toList_inj, toList_braced, String.toList_ofList, List.cons_append, List.cons.injEq,
      List.append_cancel_right_eq]
    simp
  unfold splitLiteral
  cases symbol? '\x7b' s with
  | none => simp
  | some u =>
    dsimp only
    rw [Option.some.injEq, ← cut_eq_iff]
    have hstop := List.head?_dropWhile_not (· != '\x7d') u
    cases hq : u.dropWhile (· != '\x7d') with
    | nil => simp
    | cons d v =>
      rw [hq] at hstop
      obtain rfl : d = '\x7d' := by simpa using hstop
      rw [Prod.mk.injEq, Option.some.injEq, hbraced, List.cons.injEq]
      simp

theorem mem_literal_mul {body : String} :
    s ∈ literal (some body) * M
      ↔ '\x7d' ∉ body.toList ∧ ∃ r ∈ M, s = '\x7b' :: (body.toList ++ '\x7d' :: r) := by
  rw [Language.mem_mul]
  constructor
  · rintro ⟨_, ⟨rfl, hbody⟩, r, hr, rfl⟩
    exact ⟨hbody, r, hr, by simp⟩
  · rintro ⟨hbody, r, hr, rfl⟩
    exact ⟨(braced body).toList, ⟨rfl, hbody⟩, r, hr, by simp⟩

theorem stripLeft_of_literal {body : String} :
    ∀ r ∈ literal (some body) * M, stripLeft r = r := by
  intro r hr
  obtain ⟨-, r, -, rfl⟩ := mem_literal_mul.mp hr
  exact stripLeft_of_head (by decide)

/-- A property literal, or none, is read off the front of what a mark ends. -/
theorem mem_blanks_literal_mul {body : Option String} (hb : isBlank c = false) (hc : c ≠ '\x7b') :
    s ∈ blanks * (literal body * (blanks * (symbol c * M)))
      ↔ ∃ r, splitLiteral s = (body.map braced, r) ∧ r ∈ blanks * (symbol c * M) := by
  cases body with
  | none =>
    rw [literal, one_mul, blanks_mul_blanks_mul]
    constructor
    · intro hs
      obtain ⟨r, hr, -⟩ := (mem_blanks_symbol_mul hb).mp hs
      refine ⟨s, ?_, hs⟩
      unfold splitLiteral
      rw [symbol?_ne hr hc]
      rfl
    · rintro ⟨r, hr, hs⟩
      have hrest : r = s := by
        unfold splitLiteral at hr
        split at hr
        · exact (Prod.mk.inj hr).2.symm
        · split at hr
          · exact (Prod.mk.inj hr).2.symm
          · exact absurd (Prod.mk.inj hr).1 (by simp)
      rwa [← hrest]
  | some body =>
    rw [mem_blanks_mul_iff stripLeft_of_literal, mem_literal_mul]
    show _ ↔ ∃ r, splitLiteral s = (some (braced body), r) ∧ _
    simp only [splitLiteral_eq_some_iff, symbol?_eq_some_iff]
    constructor
    · rintro ⟨hbody, r, hr, hs⟩
      exact ⟨r, ⟨hs, hbody⟩, hr⟩
    · rintro ⟨r, ⟨hs, hbody⟩, hr⟩
      exact ⟨hbody, r, hr, hs⟩

/-- After a name, a literal or the mark is seen at once. -/
theorem stripLeft_literal_mul {body : Option String} (hb : isBlank c = false)
    (hs : s ∈ blanks * (literal body * (blanks * (symbol c * M)))) :
    ∃ u, stripLeft s = c :: u ∨ stripLeft s = '\x7b' :: u := by
  cases body with
  | none =>
    rw [literal, one_mul, blanks_mul_blanks_mul] at hs
    obtain ⟨u, hu, -⟩ := (mem_blanks_symbol_mul hb).mp hs
    exact ⟨u, Or.inl (symbol?_eq_some_iff.mp hu)⟩
  | some body =>
    rw [mem_blanks_mul_iff stripLeft_of_literal, mem_literal_mul] at hs
    obtain ⟨-, u, -, hu⟩ := hs
    exact ⟨_, Or.inr hu⟩

/-- A returned name is read after its keyword, if a blank stands between. -/
theorem mem_blanks_returned_mul (h : Separate M) :
    s ∈ blanks * (keyword "return" * (gap * (name n * M)))
      ↔ ∃ r, returned? s = some (n, r) ∧ r ∈ M := by
  have hgap : ∀ u, u ∈ gap * (name n * M)
      ↔ u.head?.any isBlank = true ∧ u ∈ blanks * (name n * M) := by
    intro u
    rw [mem_blanks_mul, Language.mem_mul]
    constructor
    · rintro ⟨b, ⟨hb, hne⟩, r, hr, rfl⟩
      refine ⟨?_, b, r, hb, hr, rfl⟩
      cases b with
      | nil => exact absurd rfl hne
      | cons c b => exact hb c List.mem_cons_self
    · rintro ⟨hhead, b, r, hb, hr, rfl⟩
      refine ⟨b, ⟨hb, ?_⟩, r, hr, rfl⟩
      rintro rfl
      -- without a blank the name would come first
      rw [List.nil_append] at hhead
      obtain ⟨a, ⟨-, hne, hword⟩, r, -, rfl⟩ := Language.mem_mul.mp hr
      cases a with
      | nil => exact hne rfl
      | cons c a =>
        have hc := not_blank_of_word (hword c List.mem_cons_self)
        have hblank : isBlank c = true := hhead
        rw [hc] at hblank
        exact Bool.noConfusion hblank
  rw [mem_return_mul]
  unfold returned?
  simp only [hgap, mem_blanks_name_mul h, Option.bind_eq_bind, Option.bind_eq_some_iff]
  constructor
  · rintro ⟨u, hu, hhead, r, hr, hrest⟩
    exact ⟨r, ⟨u, hu, by rw [if_pos hhead]; exact hr⟩, hrest⟩
  · rintro ⟨r, ⟨u, hu, hr⟩, hrest⟩
    by_cases hhead : u.head?.any isBlank = true
    · rw [if_pos hhead] at hr
      exact ⟨u, hu, hhead, r, hr, hrest⟩
    · rw [if_neg hhead] at hr
      exact absurd hr (by simp)

end PropertyGraph.Grammar
