import PropertyGraph.Proofs.Grammar

/-!
# What a line asks for

A reading is what a line of some shape captures, and `Reading.lines` is the language of the lines
with that reading.
-/

namespace PropertyGraph.Shape

open Text Grammar

/-- What a line of each shape captures. -/
inductive Reading where
  | create (name : Option String) (type : String) (body : Option String)
  | nodes (name : String) (type : Option String) (returns : String)
  | allNodes (name : String)
  | relationships (source name : String) (type : Option String) (target : String)
      (returns : Option String)
  | clear

namespace Reading

def shape : Reading → Shape
  | create .. => .create
  | nodes .. => .nodes
  | allNodes .. => .allNodes
  | relationships .. => .relationships
  | clear => .clear

/-- What may stand before the type of a created node: its name and a colon, or one of these or
neither. -/
def introduced : Option String → Language Char
  | none => 1 + symbol ':' * blanks
  | some n => name n * blanks * symbol ':' * blanks

/-- A returned name at the end of a line, or nothing. -/
def ending : Option String → Language Char
  | none => 1
  | some n => blanks * keyword "return" * gap * name n

/-- The lines of a reading. -/
def lines : Reading → Language Char
  | create n type body =>
    keyword "create" * blanks * symbol '(' * blanks * introduced n * name type * blanks
      * literal body * blanks * symbol ')'
  | nodes n type returns =>
    keyword "match" * blanks * symbol '(' * blanks * word n * blanks * typed type * symbol ')'
      * blanks * keyword "return" * gap * name returns * boundary
  | allNodes n =>
    keyword "match" * blanks * symbol '(' * blanks * word n * blanks * symbol ')'
      * blanks * keyword "return" * boundary
  | relationships source n type target returns =>
    keyword "match" * blanks * symbol '(' * blanks * word source * blanks * symbol ')'
      * blanks * symbol '-'
      * blanks * symbol '[' * blanks * word n * blanks * typed type * symbol ']'
      * blanks * symbol '-'
      * blanks * symbol '(' * blanks * word target * blanks * symbol ')' * ending returns
  | clear => keyword "clear"

variable {s t : List Char}

theorem marked_typed_mul {type : Option String} {c : Char} {M : Language Char}
    (hb : isBlank c = false) (hw : isWord c = false) : Marked (typed type * (symbol c * M)) := by
  cases type with
  | none =>
    rw [typed, one_mul]
    exact marked_symbol_mul hb hw
  | some type =>
    simp only [typed, mul_assoc]
    exact marked_symbol_mul (by decide) (by decide)

theorem mem_nodes_lines {n : String} {type : Option String} {returns : String} :
    t ∈ (nodes n type returns).lines ↔
      ∃ r₁, keyword? "match" t = some r₁ ∧ ∃ r₂, symbol? '(' r₁ = some r₂
        ∧ (splitName r₂).1 = n ∧ ∃ r₃, splitType (splitName r₂).2 = some (type, r₃)
        ∧ ∃ r₄, symbol? ')' r₃ = some r₄ ∧ ∃ r₅, returned? r₄ = some (returns, r₅)
        ∧ r₅ ∈ boundary := by
  simp only [lines, mul_assoc, mem_keyword_mul, mem_blanks_symbol_mul (c := '(') (by decide),
    mem_blanks_word_mul (marked_typed_mul (c := ')') (by decide) (by decide)),
    mem_blanks_typed_mul (c := ')') (by decide) (by decide) (by decide),
    mem_blanks_symbol_mul (c := ')') (by decide),
    mem_blanks_returned_mul separate_boundary]

theorem mem_allNodes_lines {n : String} :
    t ∈ (allNodes n).lines ↔
      ∃ r₁, keyword? "match" t = some r₁ ∧ ∃ r₂, symbol? '(' r₁ = some r₂
        ∧ (splitName r₂).1 = n ∧ ∃ r₃, symbol? ')' (splitName r₂).2 = some r₃
        ∧ ∃ r₄, returnKeyword? r₃ = some r₄ ∧ r₄ ∈ boundary := by
  simp only [lines, mul_assoc, mem_keyword_mul, mem_blanks_symbol_mul (c := '(') (by decide),
    mem_blanks_word_mul (marked_symbol_mul (c := ')') (by decide) (by decide)),
    mem_blanks_symbol_mul (c := ')') (by decide), mem_return_mul]

theorem mem_ending_mul_blanks {n : Option String} :
    s ∈ ending n * blanks ↔
      (n = none ∧ stripLeft s = [])
        ∨ ∃ m r, n = some m ∧ returned? s = some (m, r) ∧ stripLeft r = [] := by
  cases n with
  | none =>
    rw [ending, one_mul, mem_blanks]
    simp
  | some n =>
    simp only [ending, mul_assoc, mem_blanks_returned_mul separate_blanks, mem_blanks]
    simp

theorem mem_relationships_lines {source n target : String} {type returns : Option String} :
    t ∈ (relationships source n type target returns).lines * blanks ↔
      ∃ r₁, keyword? "match" t = some r₁ ∧ ∃ r₂, symbol? '(' r₁ = some r₂
        ∧ (splitName r₂).1 = source ∧ ∃ r₃, symbol? ')' (splitName r₂).2 = some r₃
        ∧ ∃ r₄, symbol? '-' r₃ = some r₄ ∧ ∃ r₅, symbol? '[' r₄ = some r₅
        ∧ (splitName r₅).1 = n ∧ ∃ r₆, splitType (splitName r₅).2 = some (type, r₆)
        ∧ ∃ r₇, symbol? ']' r₆ = some r₇ ∧ ∃ r₈, symbol? '-' r₇ = some r₈
        ∧ ∃ r₉, symbol? '(' r₈ = some r₉ ∧ (splitName r₉).1 = target
        ∧ ∃ r₁₀, symbol? ')' (splitName r₉).2 = some r₁₀ ∧ r₁₀ ∈ ending returns * blanks := by
  simp only [lines, mul_assoc, mem_keyword_mul, mem_blanks_symbol_mul (c := '(') (by decide),
    mem_blanks_word_mul (marked_symbol_mul (c := ')') (by decide) (by decide)),
    mem_blanks_symbol_mul (c := ')') (by decide), mem_blanks_symbol_mul (c := '-') (by decide),
    mem_blanks_symbol_mul (c := '[') (by decide), mem_blanks_symbol_mul (c := ']') (by decide),
    mem_blanks_word_mul (marked_typed_mul (c := ']') (by decide) (by decide)),
    mem_blanks_typed_mul (c := ']') (by decide) (by decide) (by decide)]

theorem mem_clear_lines :
    t ∈ clear.lines * blanks ↔ ∃ r, keyword? "clear" t = some r ∧ stripLeft r = [] := by
  simp only [lines, mem_keyword_mul, mem_blanks]

/-! ## Creations -/

/-- The name and the type of a created node, and what follows them. -/
def nodeHead? (s : List Char) : Option (Option String × String × List Char) :=
  match symbol? ':' (splitName s).2 with
  | some r =>
    (name? r).map fun p => (if (splitName s).1 = "" then none else some (splitName s).1, p.1, p.2)
  | none => if (splitName s).1 = "" then none else some (none, (splitName s).1, (splitName s).2)

/-- A colon does not come after a name. -/
theorem splitName_of_colon {r : List Char} (h : symbol? ':' s = some r) :
    splitName s = ("", stripLeft s) := by
  have hq := symbol?_eq_some_iff.mp h
  have hempty : (splitName s).1 = "" := by
    rw [splitName_fst_eq_iff, hq]
    simp [show isWord ':' = false by decide]
  exact Prod.ext hempty (splitName_snd_of_empty hempty)

/-- A type without a name before it is read off the front of a line. -/
theorem mem_blanks_unnamed_mul {type : String} {M : Language Char} (hsep : Separate M)
    (hcolon : ∀ r ∈ M, symbol? ':' r = none) :
    s ∈ blanks * (introduced none * (name type * M))
      ↔ ∃ r, nodeHead? s = some (none, type, r) ∧ r ∈ M := by
  unfold nodeHead?
  simp only [introduced, add_mul, one_mul, mul_add, Language.mem_add, mul_assoc,
    mem_blanks_name_mul hsep, mem_blanks_symbol_mul (c := ':') (by decide)]
  constructor
  · rintro (⟨r, hs, hr⟩ | ⟨u, hu, r, hs, hr⟩)
    · rw [name?_eq_some_iff] at hs
      refine ⟨r, ?_, hr⟩
      rw [hs.1, hcolon r hr]
      exact if_neg hs.2
    · refine ⟨r, ?_, hr⟩
      rw [splitName_of_colon hu, symbol?_stripLeft, hu]
      simp [hs]
  · rintro ⟨r, hs, hr⟩
    cases hu : symbol? ':' (splitName s).2 with
    | none =>
      rw [hu] at hs
      dsimp only at hs
      by_cases hfirst : (splitName s).1 = ""
      · rw [if_pos hfirst] at hs
        exact absurd hs (by simp)
      · rw [if_neg hfirst, Option.some.injEq, Prod.mk.injEq, Prod.mk.eta] at hs
        refine Or.inl ⟨r, name?_eq_some_iff.mpr ⟨hs.2, ?_⟩, hr⟩
        rwa [hs.2] at hfirst
    | some u =>
      rw [hu] at hs
      obtain ⟨p, hp, heq⟩ := Option.map_eq_some_iff.mp hs
      obtain ⟨hfirst, rfl⟩ : (splitName s).1 = "" ∧ p = (type, r) := by simpa using heq
      rw [splitName_snd_of_empty hfirst, symbol?_stripLeft] at hu
      exact Or.inr ⟨u, hu, _, hp, hr⟩

/-- A name with its colon and a type are read off the front of a line. -/
theorem mem_blanks_named_mul {n type : String} {M : Language Char} (hsep : Separate M) :
    s ∈ blanks * (introduced (some n) * (name type * M))
      ↔ ∃ r, nodeHead? s = some (some n, type, r) ∧ r ∈ M := by
  unfold nodeHead?
  simp only [introduced, mul_assoc,
    mem_blanks_name_mul (marked_symbol_mul (c := ':') (by decide) (by decide)).separate,
    mem_blanks_name_mul hsep, mem_blanks_symbol_mul (c := ':') (by decide)]
  constructor
  · rintro ⟨v, hn, u, hu, r, hs, hr⟩
    rw [name?_eq_some_iff] at hn
    refine ⟨r, ?_, hr⟩
    rw [hn.1, hu]
    simp [hs, hn.2]
  · rintro ⟨r, hs, hr⟩
    cases hu : symbol? ':' (splitName s).2 with
    | none =>
      rw [hu] at hs
      dsimp only at hs
      split at hs
      · exact absurd hs (by simp)
      · exact absurd hs (by simp)
    | some u =>
      rw [hu] at hs
      obtain ⟨p, hp, heq⟩ := Option.map_eq_some_iff.mp hs
      obtain ⟨⟨hne, hfirst⟩, rfl⟩ :
          ((splitName s).1 ≠ "" ∧ (splitName s).1 = n) ∧ p = (type, r) := by
        simpa using heq
      exact ⟨_, name?_eq_some_iff.mpr ⟨Prod.ext hfirst rfl, hfirst ▸ hne⟩, u, hu, _, hp, hr⟩

theorem mem_blanks_introduced_mul {n : Option String} {type : String} {M : Language Char}
    (hsep : Separate M) (hcolon : ∀ r ∈ M, symbol? ':' r = none) :
    s ∈ blanks * (introduced n * (name type * M))
      ↔ ∃ r, nodeHead? s = some (n, type, r) ∧ r ∈ M := by
  cases n with
  | none => exact mem_blanks_unnamed_mul hsep hcolon
  | some n => exact mem_blanks_named_mul hsep

theorem createdNode?_eq (s : List Char) :
    createdNode? s = (symbol? '(' s).bind fun r₁ => (nodeHead? r₁).bind fun p =>
      (symbol? ')' (splitLiteral p.2.2).2).bind fun r₂ =>
        if stripLeft r₂ = [] then some (p.1, p.2.1, (splitLiteral p.2.2).1) else none := by
  unfold createdNode? nodeHead?
  cases symbol? '(' s with
  | none => rfl
  | some r =>
    simp only [Option.bind_eq_bind, Option.bind_some]
    cases symbol? ':' (splitName r).2 with
    | some u =>
      dsimp only
      cases name? u with
      | none => rfl
      | some p => rfl
    | none =>
      dsimp only
      by_cases h : (splitName r).1 = ""
      · rw [if_pos h, if_pos h]
      · rw [if_neg h, if_neg h]
        rfl

theorem createdNode?_eq_some_iff {n : Option String} {type : String} {body : Option String} :
    createdNode? s = some (n, type, body) ↔
      ∃ r₁, symbol? '(' s = some r₁ ∧ ∃ r₂, nodeHead? r₁ = some (n, type, r₂)
        ∧ ∃ r₃, splitLiteral r₂ = (body, r₃) ∧ ∃ r₄, symbol? ')' r₃ = some r₄
        ∧ stripLeft r₄ = [] := by
  simp only [createdNode?_eq, Option.bind_eq_some_iff]
  constructor
  · rintro ⟨r₁, h1, ⟨n', type', r₂⟩, h2, r₄, h4, hend⟩
    by_cases hr : stripLeft r₄ = []
    · rw [if_pos hr] at hend
      obtain ⟨rfl, rfl, rfl⟩ : n' = n ∧ type' = type ∧ (splitLiteral r₂).1 = body := by
        simpa using hend
      exact ⟨r₁, h1, r₂, h2, _, rfl, r₄, h4, hr⟩
    · rw [if_neg hr] at hend
      exact absurd hend (by simp)
  · rintro ⟨r₁, h1, r₂, h2, r₃, h3, r₄, h4, hr⟩
    refine ⟨r₁, h1, _, h2, r₄, ?_, ?_⟩
    · rw [h3]
      exact h4
    · rw [if_pos hr, h3]

theorem mem_create_lines {n : Option String} {type : String} {body : Option String} :
    t ∈ (create n type body).lines * blanks ↔
      ∃ r, keyword? "create" t = some r
        ∧ createdNode? r = some (n, type, body.map Literal.braced) := by
  -- what follows the type starts with no word character and no colon
  have hmark : ∀ r ∈ blanks * (literal body * (blanks * (symbol ')' * blanks))),
      continuesWord r = false ∧ symbol? ':' r = none := by
    intro r hr
    have hnone : ∀ {c u}, stripLeft r = c :: u → isWord c = false → c ≠ ':' →
        continuesWord r = false ∧ symbol? ':' r = none := by
      intro c u hq hw hc
      refine ⟨continuesWord_of_stripLeft ?_, symbol?_ne (symbol?_eq_some_iff.mpr hq) hc⟩
      rw [hq]
      exact hw
    obtain ⟨u, hu | hu⟩ := stripLeft_literal_mul (c := ')') (by decide) hr
    · exact hnone hu (by decide) (by decide)
    · exact hnone hu (by decide) (by decide)
  simp only [lines, mul_assoc, mem_keyword_mul, mem_blanks_symbol_mul (c := '(') (by decide),
    mem_blanks_introduced_mul (fun r hr => (hmark r hr).1) (fun r hr => (hmark r hr).2),
    mem_blanks_literal_mul (c := ')') (by decide) (by decide),
    mem_blanks_symbol_mul (c := ')') (by decide), mem_blanks, createdNode?_eq_some_iff]

end Reading

end PropertyGraph.Shape
