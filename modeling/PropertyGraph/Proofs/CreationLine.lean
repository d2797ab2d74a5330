import PropertyGraph.Proofs.CommandLine

/-!
# Lines that create a node with a literal

Where a literal ends is found twice: the shape of a creation takes what stands before the first
closing brace, and the scan for entries goes by quotes. Both agree on every literal that has no
closing brace but its last. Of any other the shape sees a part only, and since what is left of the
literal has no place in a creation, the line is refused, whatever the quotes say: `parse_creation`.

A literal that both agree on may still hold an integer with too many digits. Then the line is
neither understood nor refused.
-/

namespace PropertyGraph

open Text Shape Grammar
open Literal (braced)

/-- Names are runs of word characters, of one at least. -/
structure IsName (n : String) : Prop where
  nonempty : n ≠ ""
  word : ∀ c ∈ n.toList, isWord c = true

/-- The line that creates a node of a type, under a name and with a literal. -/
def creation (n type literal : String) : String :=
  "CREATE (" ++ n ++ ":" ++ type ++ " " ++ literal ++ ")"

variable {n type : String}

theorem IsName.mem (h : IsName n) : n.toList ∈ name n :=
  ⟨rfl, fun hnil => h.nonempty (String.toList_eq_nil_iff.mp hnil), h.word⟩

namespace Shape

/-! ## The parts of the line -/

theorem nodeHead?_named (hn : IsName n) (ht : IsName type) (rest : List Char)
    (hrest : continuesWord rest = false) :
    Reading.nodeHead? (n.toList ++ ':' :: (type.toList ++ rest)) = some (some n, type, rest) := by
  have hsep : Separate ({rest} : Language Char) := by
    rintro _ rfl
    exact hrest
  have htype : type.toList ++ rest ∈ blanks * (name type * ({rest} : Language Char)) :=
    mem_blanks_mul.mpr ⟨[], _, Blanks.nil,
      Language.mem_mul.mpr ⟨_, ht.mem, rest, rfl, rfl⟩, rfl⟩
  have hcolon : ':' :: (type.toList ++ rest)
      ∈ blanks * (symbol ':' * (blanks * (name type * ({rest} : Language Char)))) :=
    mem_blanks_mul.mpr ⟨[], _, Blanks.nil, mem_symbol_mul.mpr ⟨_, htype, rfl⟩, rfl⟩
  have hline : n.toList ++ ':' :: (type.toList ++ rest)
      ∈ blanks * (Reading.introduced (some n) * (name type * ({rest} : Language Char))) := by
    simp only [Reading.introduced, mul_assoc]
    exact mem_blanks_mul.mpr ⟨[], _, Blanks.nil,
      Language.mem_mul.mpr ⟨_, hn.mem, _, hcolon, rfl⟩, rfl⟩
  obtain ⟨r, hr, rfl⟩ := (Reading.mem_blanks_named_mul hsep).mp hline
  exact hr

/-- The shape takes a literal up to the first closing brace. -/
theorem splitLiteral_braced (body : String) (h : '\x7d' ∉ body.toList) (rest : List Char) :
    splitLiteral (' ' :: '\x7b' :: (body.toList ++ '\x7d' :: rest))
      = (some (braced body), rest) :=
  splitLiteral_eq_some_iff.mpr ⟨rfl, h⟩

/-- Nothing but blanks can stand around the parenthesis that ends a creation. -/
theorem not_mem_of_closed {r u : List Char} (h : symbol? ')' r = some u)
    (hend : stripLeft u = []) : '\x7d' ∉ r := by
  obtain ⟨b, hb, hr⟩ := exists_stripLeft r
  have hu : Blanks u := mem_blanks.mpr hend
  have hbrace : isBlank '\x7d' = false := by decide
  rw [hr, symbol?_eq_some_iff.mp h, List.mem_append, List.mem_cons, not_or, not_or]
  exact ⟨Literal.not_mem_of_blanks hb hbrace, by decide, Literal.not_mem_of_blanks hu hbrace⟩

/-- The parts of a creation are found unless a closing brace comes before the last one. -/
theorem createdNode?_named (hn : IsName n) (ht : IsName type) (body : String) :
    createdNode? (' ' :: '(' :: (n.toList ++ ':' :: (type.toList
        ++ ' ' :: '\x7b' :: (body.toList ++ ['\x7d', ')']))))
      = if '\x7d' ∈ body.toList then none else some (some n, type, some (braced body)) := by
  have hhead := nodeHead?_named hn ht (' ' :: '\x7b' :: (body.toList ++ ['\x7d', ')'])) rfl
  split
  · rename_i hbrace
    obtain ⟨front, back, heq, hfront⟩ := List.eq_append_cons_of_mem hbrace
    -- the literal ends inside the body, and a closing brace is left
    have hsplit : splitLiteral (' ' :: '\x7b' :: (body.toList ++ ['\x7d', ')']))
        = (some (braced (String.ofList front)), back ++ ['\x7d', ')']) := by
      have hbody := splitLiteral_braced (String.ofList front)
        (by rwa [String.toList_ofList]) (back ++ ['\x7d', ')'])
      rw [String.toList_ofList] at hbody
      rw [heq, List.append_assoc, List.cons_append]
      exact hbody
    rw [Option.eq_none_iff_forall_ne_some]
    rintro ⟨n', type', literal⟩ hsome
    obtain ⟨r₁, h1, r₂, h2, r₃, h3, r₄, h4, hend⟩ := Reading.createdNode?_eq_some_iff.mp hsome
    obtain rfl := Option.some.inj h1
    rw [hhead, Option.some.injEq, Prod.mk.injEq, Prod.mk.injEq] at h2
    rw [← h2.2.2, hsplit, Prod.mk.injEq] at h3
    refine not_mem_of_closed h4 hend ?_
    rw [← h3.2]
    exact List.mem_append_right _ List.mem_cons_self
  · rename_i hbrace
    exact Reading.createdNode?_eq_some_iff.mpr
      ⟨_, rfl, _, hhead, _, splitLiteral_braced body hbrace [')'], _, rfl, rfl⟩

/-! ## The line -/

theorem toList_creation (n type body : String) :
    (creation n type (braced body)).toList
      = "CREATE".toList ++ ' ' :: '(' :: (n.toList ++ ':' :: (type.toList
        ++ ' ' :: '\x7b' :: (body.toList ++ ['\x7d', ')']))) := by
  simp [creation]

theorem trimmed_creation (n type body : String) :
    Trimmed (creation n type (braced body)).toList := by
  refine ⟨fun c hc => ?_, fun c hc => ?_⟩
  · rw [toList_creation] at hc
    obtain rfl := Option.some.inj hc
    decide
  · unfold creation at hc
    rw [String.toList_append, List.getLast?_append_of_ne_nil _ (by decide)] at hc
    obtain rfl := Option.some.inj hc
    decide

theorem trim_creation (n type body : String) :
    trim (creation n type (braced body)) = creation n type (braced body) :=
  trim_of_trimmed (trimmed_creation n type body)

theorem creation_ne_empty (n type body : String) : creation n type (braced body) ≠ "" := by
  rw [ne_eq, ← String.toList_eq_nil_iff, toList_creation]
  exact List.cons_ne_nil _ _

theorem keyword?_creation (n type body : String) :
    keyword? "create" (creation n type (braced body)).toList
      = some (' ' :: '(' :: (n.toList ++ ':' :: (type.toList
        ++ ' ' :: '\x7b' :: (body.toList ++ ['\x7d', ')'])))) :=
  dropLetters?_eq_some_iff.mpr ⟨"CREATE".toList, by decide, toList_creation n type body⟩

/-- The line is a creation of the grammar if its literal has no other closing brace. -/
theorem creation_mem_lines (hn : IsName n) (ht : IsName type) {body : String}
    (hbrace : '\x7d' ∉ body.toList) : (creation n type (braced body)).toList
      ∈ (Reading.create (some n) type (some body)).lines := by
  have hnode := createdNode?_named hn ht body
  rw [if_neg hbrace] at hnode
  exact (mem_mul_blanks_iff (trimmed_creation n type body)).mp
    (Reading.mem_create_lines.mpr ⟨_, keyword?_creation n type body, hnode⟩)

theorem readCreate_creation_of_mem (hn : IsName n) (ht : IsName type) {body : String}
    (hbrace : '\x7d' ∈ body.toList) : readCreate (creation n type (braced body))
      = .error (.reported (.malformedCreate (creation n type (braced body)))) := by
  have hspace : ∀ r, continuesWord (' ' :: r) = false := fun _ => rfl
  unfold readCreate
  rw [keyword?_creation]
  dsimp only
  rw [hspace, if_neg (by simp), createdNode?_named hn ht, if_pos hbrace]

theorem readCreate_creation (hn : IsName n) (ht : IsName type) {body : String}
    (hbrace : '\x7d' ∉ body.toList) : readCreate (creation n type (braced body))
      = ((Literal.parse (braced body)).map fun properties =>
        Action.create n type properties).map some := by
  have hspace : ∀ r, continuesWord (' ' :: r) = false := fun _ => rfl
  unfold readCreate
  rw [keyword?_creation]
  dsimp only
  rw [hspace, if_neg (by simp), createdNode?_named hn ht, if_neg hbrace]
  show (Literal.parse (braced body) >>= _) = _
  cases Literal.parse (braced body) <;> rfl

end Shape

namespace Command

/-- What reads as a creation is not read any other way. -/
theorem parse_of_readCreate {line : String} (htrim : trim line = line) (hne : line ≠ "")
    {r : Except (Halt Fault) Action} (h : readCreate line = r.map some) :
    parse Shape.all line = r.map fun action => ⟨line, action⟩ := by
  have hfirst : Shape.readFirst line Shape.all = r := by
    unfold Shape.all
    rw [Shape.readFirst_cons, Shape.read?, h]
    cases r <;> rfl
  unfold parse
  dsimp only
  rw [htrim, if_neg hne, hfirst]
  cases r <;> rfl

theorem parse_creation_of_mem (hn : IsName n) (ht : IsName type) {body : String}
    (hbrace : '\x7d' ∈ body.toList) : parse Shape.all (creation n type (braced body))
      = .error (.reported (.malformedCreate (creation n type (braced body)))) :=
  parse_of_readCreate (r := .error _) (Shape.trim_creation n type body)
    (Shape.creation_ne_empty n type body) (Shape.readCreate_creation_of_mem hn ht hbrace)

theorem parse_creation_of_not_mem (hn : IsName n) (ht : IsName type) {body : String}
    (hbrace : '\x7d' ∉ body.toList) : parse Shape.all (creation n type (braced body))
      = (Literal.parse (braced body)).map fun properties =>
        ⟨creation n type (braced body), .create n type properties⟩ := by
  rw [parse_of_readCreate (Shape.trim_creation n type body) (Shape.creation_ne_empty n type body)
    (Shape.readCreate_creation hn ht hbrace)]
  cases Literal.parse (braced body) <;> rfl

/--
**A literal in a creation ends with its first closing brace.** If it has no other, the line creates
a node with the properties that the literal denotes by itself, or fails as the literal does. If it
has another one, inside quotes or not, the line is refused as malformed.
-/
theorem parse_creation (hn : IsName n) (ht : IsName type) (body : String) :
    parse Shape.all (creation n type (braced body))
      = if '\x7d' ∈ body.toList
        then .error (.reported (.malformedCreate (creation n type (braced body))))
        else (Literal.parse (braced body)).map fun properties =>
          ⟨creation n type (braced body), .create n type properties⟩ := by
  split
  · exact parse_creation_of_mem hn ht ‹_›
  · exact parse_creation_of_not_mem hn ht ‹_›

theorem isName_v : IsName "v" := ⟨by decide, List.forall_mem_singleton.mpr rfl⟩

theorem isName_T : IsName "T" := ⟨by decide, List.forall_mem_singleton.mpr rfl⟩

/-- Commas and parentheses in quoted text are no obstacle. -/
theorem parse_creation_quoted :
    parse Shape.all "CREATE (v:T \x7ba: 'x,)'\x7d)"
      = .ok ⟨"CREATE (v:T \x7ba: 'x,)'\x7d)", .create "v" "T" (.ofList [("a", .text "x,)")])⟩ :=
  parse_creation isName_v isName_T "a: 'x,)'"

/-- A closing brace is, although the literal by itself is read with it. -/
theorem parse_creation_quotedBrace :
    Literal.openQuote none "a: '".toList = some '\''
      ∧ Literal.parse "\x7ba: '\x7d'\x7d" = .ok (.ofList [("a", .text "\x7d")])
      ∧ parse Shape.all "CREATE (v:T \x7ba: '\x7d'\x7d)"
        = .error (.reported (.malformedCreate "CREATE (v:T \x7ba: '\x7d'\x7d)")) := by
  decide +kernel

/-! ## A numeral with too many digits -/

/-- The body of a literal with nothing but a numeral of so many digits. -/
def onesBody (n : Nat) : String := String.ofList ('a' :: ':' :: Literal.ones n)

/-- A creation with that literal. -/
def onesLine (n : Nat) : String := creation "v" "T" (braced (onesBody n))

theorem toList_onesBody (n : Nat) : (onesBody n).toList = 'a' :: ':' :: Literal.ones n :=
  String.toList_ofList

theorem not_mem_onesBody (n : Nat) : '\x7d' ∉ (onesBody n).toList := by
  rw [toList_onesBody, List.mem_cons, List.mem_cons, not_or, not_or]
  exact ⟨by decide, by decide, fun h => absurd (List.eq_of_mem_replicate h) (by decide)⟩

theorem parse_onesLine {n : Nat} (h : Decimal.digitLimit < n) :
    parse Shape.all (onesLine n) = .error (.longNumeral ⟨n⟩) := by
  have hliteral : braced (onesBody n) = Literal.literal ['a' :: ':' :: Literal.ones n] := by
    rw [Literal.literal_eq_braced, List.intercalate_singleton, onesBody]
  rw [onesLine, parse_creation_of_not_mem isName_v isName_T (not_mem_onesBody n), hliteral,
    Literal.parse_ones h]
  rfl

/-- Such a line is a creation of the grammar and leaves no quote open, but it is neither understood
nor refused. -/
theorem not_parse_onesLine :
    (onesLine 4301).toList ∈ (Reading.create (some "v") "T" (some (onesBody 4301))).lines
      ∧ Literal.openQuote none (onesBody 4301).toList = none
      ∧ parse Shape.all (onesLine 4301) = .error (.longNumeral ⟨4301⟩) := by
  have hentered := Literal.entered_ones (n := 4301) (by decide)
  refine ⟨Shape.creation_mem_lines isName_v isName_T (not_mem_onesBody _), ?_,
    parse_onesLine (by decide)⟩
  rw [toList_onesBody]
  exact hentered.isPiece.1

end Command

end PropertyGraph
