import Mathlib.Data.Set.Function
import PropertyGraph.Proofs.Literal
import PropertyGraph.Proofs.Reading

/-!
# The command of a line

`Asks t r` says what the grammar makes of a trimmed line: the action of its reading, a malformed
creation, or nothing known. The grammar leaves no choice. A line has at most one reading of each
shape, and readings of two shapes only where a selection of nodes names what it returns; then the
name counts. The shapes find that reading: `parse_iff_understood`.
-/

namespace PropertyGraph.Shape

open Text Grammar

namespace Reading

/-- What a line with a reading asks for. -/
def action : Reading → Except (Halt Command.Fault) Action
  | create n type body => do
    let properties ← body.elim (pure ∅) fun body => Literal.parse (Literal.braced body)
    return .create (n.getD Command.defaultName) type properties
  | nodes n type returns => .ok (.selectNodes n type returns)
  | allNodes _ => .ok .selectAllNodes
  | relationships source name type target returns =>
    .ok (.selectRelationships
      { type, name, source, target, returns := returns.getD Command.defaultReturn })
  | clear => .ok .clear

end Reading

open Reading

/-- What a trimmed line asks for. -/
inductive Asks (t : List Char) : Except (Halt Command.Fault) Action → Prop where
  /-- What it has a reading for; to name what is returned goes before asking for all nodes. -/
  | reading (p : Reading) (hp : t ∈ p.lines)
    (hfirst : p.shape = .allNodes → ∀ q : Reading, q.shape = .nodes → t ∉ q.lines) :
    Asks t p.action
  | malformed (ht : t ∈ keyword "create" * boundary) (hnone : ∀ p : Reading, t ∉ p.lines) :
    Asks t (.error (.reported (.malformedCreate (String.ofList t))))
  | unknown (ht : t ∉ keyword "create" * boundary) (hnone : ∀ p : Reading, t ∉ p.lines) :
    Asks t (.ok .unknown)

variable {s t : List Char} {p q : Reading}

/-! ## One reading for each shape -/

/-- Blanks may follow a line. -/
theorem mem_mul_blanks {M : Language Char} (h : t ∈ M) : t ∈ M * blanks :=
  Language.mem_mul.mpr ⟨t, h, [], Blanks.nil, List.append_nil t⟩

theorem braced_inj {a b : String} : Literal.braced a = Literal.braced b ↔ a = b := by
  rw [← String.toList_inj, Literal.toList_braced, Literal.toList_braced, List.cons.injEq,
    List.append_cancel_right_eq, ← String.toList_inj]
  simp

theorem exists_of_returned? {r : List Char} {n : String} (h : returned? s = some (n, r)) :
    ∃ u, returnKeyword? s = some u := by
  obtain ⟨u, hu, -⟩ := Option.bind_eq_some_iff.mp h
  exact ⟨u, hu⟩

/-- What starts with the keyword of a returned name starts with no mark. -/
theorem not_return_of_symbol {c : Char} (hc : isLetter 'r' c = false) {r u : List Char}
    (hr : symbol? c s = some r) (hu : returnKeyword? s = some u) : False := by
  rw [symbol?_eq_some_iff] at hr
  unfold returnKeyword? keyword? at hu
  rw [hr] at hu
  rw [show "return".toList = 'r' :: "eturn".toList from rfl, dropLetters?,
    if_neg (by simp [hc])] at hu
  exact absurd hu (by simp)

/-- Where a name is returned, not all is blank. -/
theorem stripLeft_ne_nil_of_returned? {n : String} {r : List Char}
    (h : returned? s = some (n, r)) : stripLeft s ≠ [] := by
  intro hnil
  obtain ⟨u, hu⟩ := exists_of_returned? h
  unfold returnKeyword? keyword? at hu
  rw [hnil] at hu
  exact absurd hu (by simp [dropLetters?])

theorem ending_unique {m n : Option String} (hm : s ∈ ending m * blanks)
    (hn : s ∈ ending n * blanks) : m = n := by
  rcases mem_ending_mul_blanks.mp hm with ⟨rfl, hs⟩ | ⟨m, r, rfl, hr, -⟩
  · rcases mem_ending_mul_blanks.mp hn with ⟨rfl, -⟩ | ⟨n, r, -, hr, -⟩
    · rfl
    · exact absurd hs (stripLeft_ne_nil_of_returned? hr)
  · rcases mem_ending_mul_blanks.mp hn with ⟨-, hs⟩ | ⟨n, r', rfl, hr', -⟩
    · exact absurd hs (stripLeft_ne_nil_of_returned? hr)
    · have heq := hr.symm.trans hr'
      rw [Option.some.injEq, Prod.mk.injEq] at heq
      rw [heq.1]

/-- A line has at most one reading of each shape. -/
theorem injOn_shape (t : List Char) : Set.InjOn Reading.shape {p : Reading | t ∈ p.lines} := by
  intro p hp q hq hshape
  have hp : t ∈ p.lines := hp
  have hq : t ∈ q.lines := hq
  -- the parts are read off by functions, so two readings of one shape agree part by part
  cases p with
  | create n type body =>
    cases q with
    | create n' type' body' =>
      have hp := mem_create_lines.mp (mem_mul_blanks hp)
      have hq := mem_create_lines.mp (mem_mul_blanks hq)
      have hinj : ∀ a b : Option String,
          a.map Literal.braced = b.map Literal.braced → a = b :=
        fun a b hab => Option.map_injective (fun _ _ => braced_inj.mp) hab
      grind
    | _ => exact absurd hshape (by simp [Reading.shape])
  | nodes n type returns =>
    cases q with
    | nodes n' type' returns' =>
      rw [mem_nodes_lines] at hp hq
      grind
    | _ => exact absurd hshape (by simp [Reading.shape])
  | allNodes n =>
    cases q with
    | allNodes n' =>
      rw [mem_allNodes_lines] at hp hq
      grind
    | _ => exact absurd hshape (by simp [Reading.shape])
  | relationships source n type target returns =>
    cases q with
    | relationships source' n' type' target' returns' =>
      have hp := mem_relationships_lines.mp (mem_mul_blanks hp)
      have hq := mem_relationships_lines.mp (mem_mul_blanks hq)
      grind [ending_unique]
    | _ => exact absurd hshape (by simp [Reading.shape])
  | clear =>
    cases q with
    | clear => rfl
    | _ => exact absurd hshape (by simp [Reading.shape])

/-! ## Lines of different shapes -/

/-- The keyword that the lines of a shape start with. -/
def opening : Shape → String
  | create => "create"
  | nodes | allNodes | relationships => "match"
  | clear => "clear"

theorem toList_prefix_of_keyword? {w : String} {r : List Char} (h : keyword? w s = some r) :
    w.toList <+: s.map Char.toLower := by
  obtain ⟨a, ha, rfl⟩ := dropLetters?_eq_some_iff.mp h
  rw [List.map_append, ha]
  exact List.prefix_append _ _

/-- A text starts with one of the keywords only. -/
theorem opening_inj {a b : Shape} {r u : List Char} (ha : keyword? a.opening s = some r)
    (hb : keyword? b.opening s = some u) : a.opening = b.opening := by
  have h := List.prefix_or_prefix_of_prefix (toList_prefix_of_keyword? ha)
    (toList_prefix_of_keyword? hb)
  revert h
  cases a <;> cases b <;> decide

theorem keyword?_of_mem (h : t ∈ p.lines) : ∃ r, keyword? p.shape.opening t = some r := by
  cases p with
  | create n type body =>
    obtain ⟨r, hr, -⟩ := mem_create_lines.mp (mem_mul_blanks h)
    exact ⟨r, hr⟩
  | nodes n type returns =>
    obtain ⟨r, hr, -⟩ := mem_nodes_lines.mp h
    exact ⟨r, hr⟩
  | allNodes n =>
    obtain ⟨r, hr, -⟩ := mem_allNodes_lines.mp h
    exact ⟨r, hr⟩
  | relationships source n type target returns =>
    obtain ⟨r, hr, -⟩ := mem_relationships_lines.mp (mem_mul_blanks h)
    exact ⟨r, hr⟩
  | clear =>
    obtain ⟨r, hr, -⟩ := mem_clear_lines.mp (mem_mul_blanks h)
    exact ⟨r, hr⟩

/-- What comes after the first parenthesis of a selection: a keyword or a dash. -/
theorem selection_cases (h : t ∈ p.lines) (hp : p.shape.opening = "match") :
    ∃ r₁, keyword? "match" t = some r₁ ∧ ∃ r₂, symbol? '(' r₁ = some r₂ ∧
      ((p.shape = .relationships ∧ ∃ r₃, symbol? ')' (splitName r₂).2 = some r₃
          ∧ ∃ r₄, symbol? '-' r₃ = some r₄)
        ∨ p.shape ≠ .relationships ∧ ∃ type r₃, splitType (splitName r₂).2 = some (type, r₃)
          ∧ ∃ r₄, symbol? ')' r₃ = some r₄ ∧ ∃ r₅, returnKeyword? r₄ = some r₅) := by
  cases p with
  | nodes n type returns =>
    obtain ⟨r₁, h1, r₂, h2, -, r₃, h3, r₄, h4, r₅, h5, -⟩ := mem_nodes_lines.mp h
    exact ⟨r₁, h1, r₂, h2, Or.inr ⟨by simp [Reading.shape], type, r₃, h3, r₄, h4,
      exists_of_returned? h5⟩⟩
  | allNodes n =>
    obtain ⟨r₁, h1, r₂, h2, -, r₃, h3, r₄, h4, -⟩ := mem_allNodes_lines.mp h
    refine ⟨r₁, h1, r₂, h2, Or.inr ⟨by simp [Reading.shape], none, _, ?_, r₃, h3, r₄, h4⟩⟩
    unfold splitType
    rw [symbol?_ne h3 (by decide)]
  | relationships source n type target returns =>
    obtain ⟨r₁, h1, r₂, h2, -, r₃, h3, r₄, h4, -⟩ :=
      mem_relationships_lines.mp (mem_mul_blanks h)
    exact ⟨r₁, h1, r₂, h2, Or.inl ⟨rfl, r₃, h3, r₄, h4⟩⟩
  | create n type body => exact absurd hp (by simp [Reading.shape, opening])
  | clear => exact absurd hp (by simp [Reading.shape, opening])

/-- No line asks for nodes and for relationships. -/
theorem relationships_of_mem (hp : t ∈ p.lines) (hq : t ∈ q.lines)
    (hshape : p.shape = .relationships) (hmatch : q.shape.opening = "match") :
    q.shape = .relationships := by
  obtain ⟨r₁, h1, r₂, h2, hdash | hother⟩ := selection_cases hp (by rw [hshape]; rfl)
  · obtain ⟨r₁', h1', r₂', h2', hq | ⟨-, type, r₃, h3, r₄, h4, r₅, h5⟩⟩ := selection_cases hq hmatch
    · exact hq.1
    · obtain rfl : r₁ = r₁' := Option.some.inj (h1.symm.trans h1')
      obtain rfl : r₂ = r₂' := Option.some.inj (h2.symm.trans h2')
      obtain ⟨-, u, hu, v, hv⟩ := hdash
      -- no colon follows the name, so the parenthesis does
      unfold splitType at h3
      rw [symbol?_ne hu (by decide), Option.some.injEq, Prod.mk.injEq] at h3
      rw [← h3.2, hu, Option.some.injEq] at h4
      rw [← h4] at h5
      exact (not_return_of_symbol (by decide) hv h5).elim
  · exact absurd hshape hother.1

theorem shape_cases (hp : t ∈ p.lines) (hq : t ∈ q.lines) :
    p.shape = q.shape ∨ (p.shape = .nodes ∧ q.shape = .allNodes)
      ∨ (p.shape = .allNodes ∧ q.shape = .nodes) := by
  obtain ⟨r, hr⟩ := keyword?_of_mem hp
  obtain ⟨u, hu⟩ := keyword?_of_mem hq
  have hopen := opening_inj hr hu
  have h1 := relationships_of_mem hp hq
  have h2 := relationships_of_mem hq hp
  -- among the shapes with the same keyword, those of relationships stand apart
  revert hopen h1 h2
  generalize p.shape = a
  generalize q.shape = b
  cases a <;> cases b <;> decide

/-- What a line asks for is one thing. -/
theorem Asks.unique {a b : Except (Halt Command.Fault) Action} (ha : Asks t a) (hb : Asks t b) :
    a = b := by
  cases ha with
  | reading p hp hfirst =>
    cases hb with
    | reading q hq hfirst' =>
      rcases shape_cases hp hq with hshape | ⟨hn, ha⟩ | ⟨ha, hn⟩
      · rw [injOn_shape t hp hq hshape]
      · exact absurd hp (hfirst' ha p hn)
      · exact absurd hq (hfirst ha q hn)
    | malformed _ hnone => exact absurd hp (hnone p)
    | unknown _ hnone => exact absurd hp (hnone p)
  | malformed ht hnone =>
    cases hb with
    | reading q hq _ => exact absurd hq (hnone q)
    | malformed => rfl
    | unknown ht' _ => exact absurd ht ht'
  | unknown ht hnone =>
    cases hb with
    | reading q hq _ => exact absurd hq (hnone q)
    | malformed ht' _ => exact absurd ht' ht
    | unknown => rfl

/-! ## What the shapes read -/

theorem boundary_of_returned? {n : String} {r : List Char} (h : returned? s = some (n, r)) :
    r ∈ boundary := by
  obtain ⟨u, -, hu⟩ := Option.bind_eq_some_iff.mp h
  split at hu
  · have hsplit := (name?_eq_some_iff.mp hu).1
    have hr : r = (stripLeft u).dropWhile isWord := (Prod.mk.inj hsplit).2.symm
    have hstop := List.head?_dropWhile_not isWord (stripLeft u)
    rw [← hr] at hstop
    show continuesWord r = false
    unfold continuesWord
    cases hq : r.head? with
    | none => rfl
    | some c =>
      rw [hq] at hstop
      exact hstop
  · exact absurd hu (by simp)

theorem readNodes_eq_some_iff {a : Action} :
    readNodes t = some a
      ↔ ∃ n type returns, t ∈ (Reading.nodes n type returns).lines
        ∧ a = .selectNodes n type returns := by
  constructor
  · intro h
    unfold readNodes at h
    obtain ⟨r₁, h1, h⟩ := Option.bind_eq_some_iff.mp h
    obtain ⟨r₂, h2, h⟩ := Option.bind_eq_some_iff.mp h
    obtain ⟨⟨type, r₃⟩, h3, h⟩ := Option.bind_eq_some_iff.mp h
    obtain ⟨r₄, h4, h⟩ := Option.bind_eq_some_iff.mp h
    obtain ⟨⟨returns, r₅⟩, h5, h⟩ := Option.bind_eq_some_iff.mp h
    exact ⟨_, _, _, mem_nodes_lines.mpr
      ⟨r₁, h1, r₂, h2, rfl, r₃, h3, r₄, h4, r₅, h5, boundary_of_returned? h5⟩,
      (Option.some.inj h).symm⟩
  · rintro ⟨n, type, returns, h, rfl⟩
    obtain ⟨r₁, h1, r₂, h2, rfl, r₃, h3, r₄, h4, r₅, h5, -⟩ := mem_nodes_lines.mp h
    unfold readNodes
    simp [h1, h2, h3, h4, h5]

theorem readAllNodes_eq_some_iff {a : Action} :
    readAllNodes t = some a
      ↔ ∃ n, t ∈ (Reading.allNodes n).lines ∧ a = .selectAllNodes := by
  constructor
  · intro h
    unfold readAllNodes at h
    obtain ⟨r₁, h1, h⟩ := Option.bind_eq_some_iff.mp h
    obtain ⟨r₂, h2, h⟩ := Option.bind_eq_some_iff.mp h
    obtain ⟨r₃, h3, h⟩ := Option.bind_eq_some_iff.mp h
    obtain ⟨r₄, h4, h⟩ := Option.bind_eq_some_iff.mp h
    split at h
    · exact absurd h (by simp)
    · rename_i hword
      exact ⟨_, mem_allNodes_lines.mpr
        ⟨r₁, h1, r₂, h2, rfl, r₃, h3, r₄, h4, (Bool.not_eq_true _).mp hword⟩,
        (Option.some.inj h).symm⟩
  · rintro ⟨n, h, rfl⟩
    obtain ⟨r₁, h1, r₂, h2, rfl, r₃, h3, r₄, h4, hword⟩ := mem_allNodes_lines.mp h
    have hword : continuesWord r₄ = false := hword
    unfold readAllNodes
    simp [h1, h2, h3, h4, hword]

theorem lastReturn?_eq_some_iff {returns : String} :
    lastReturn? s = some returns
      ↔ ∃ n, s ∈ ending n * blanks ∧ returns = n.getD Command.defaultReturn := by
  unfold lastReturn?
  constructor
  · intro h
    split at h
    · rename_i hnil
      exact ⟨none, mem_ending_mul_blanks.mpr (Or.inl ⟨rfl, hnil⟩), (Option.some.inj h).symm⟩
    · obtain ⟨⟨n, r⟩, hr, h⟩ := Option.bind_eq_some_iff.mp h
      dsimp only at h
      split at h
      · rename_i hnil
        exact ⟨some n, mem_ending_mul_blanks.mpr (Or.inr ⟨n, r, rfl, hr, hnil⟩),
          (Option.some.inj h).symm⟩
      · exact absurd h (by simp)
  · rintro ⟨n, h, rfl⟩
    rcases mem_ending_mul_blanks.mp h with ⟨rfl, hs⟩ | ⟨n, r, rfl, hr, hend⟩
    · rw [if_pos hs]
      rfl
    · rw [if_neg (stripLeft_ne_nil_of_returned? hr)]
      simp [hr, hend]

theorem readRelationships_eq_some_iff {a : Action} :
    readRelationships t = some a
      ↔ ∃ source n type target returns,
        t ∈ (Reading.relationships source n type target returns).lines * blanks
        ∧ a = .selectRelationships
          ⟨type, n, source, target, returns.getD Command.defaultReturn⟩ := by
  constructor
  · intro h
    unfold readRelationships at h
    obtain ⟨r₁, h1, h⟩ := Option.bind_eq_some_iff.mp h
    obtain ⟨r₂, h2, h⟩ := Option.bind_eq_some_iff.mp h
    obtain ⟨r₃, h3, h⟩ := Option.bind_eq_some_iff.mp h
    obtain ⟨r₄, h4, h⟩ := Option.bind_eq_some_iff.mp h
    obtain ⟨r₅, h5, h⟩ := Option.bind_eq_some_iff.mp h
    obtain ⟨⟨type, r₆⟩, h6, h⟩ := Option.bind_eq_some_iff.mp h
    obtain ⟨r₇, h7, h⟩ := Option.bind_eq_some_iff.mp h
    obtain ⟨r₈, h8, h⟩ := Option.bind_eq_some_iff.mp h
    obtain ⟨r₉, h9, h⟩ := Option.bind_eq_some_iff.mp h
    obtain ⟨r₁₀, h10, h⟩ := Option.bind_eq_some_iff.mp h
    obtain ⟨returned, hlast, h⟩ := Option.bind_eq_some_iff.mp h
    obtain ⟨returns, hend, rfl⟩ := lastReturn?_eq_some_iff.mp hlast
    exact ⟨_, _, _, _, returns, mem_relationships_lines.mpr
      ⟨r₁, h1, r₂, h2, rfl, r₃, h3, r₄, h4, r₅, h5, rfl, r₆, h6, r₇, h7, r₈, h8, r₉, h9, rfl, r₁₀,
        h10, hend⟩, (Option.some.inj h).symm⟩
  · rintro ⟨source, n, type, target, returns, h, rfl⟩
    obtain ⟨r₁, h1, r₂, h2, rfl, r₃, h3, r₄, h4, r₅, h5, rfl, r₆, h6, r₇, h7, r₈, h8, r₉, h9, rfl,
      r₁₀, h10, hend⟩ := mem_relationships_lines.mp h
    have hlast := lastReturn?_eq_some_iff.mpr ⟨returns, hend, rfl⟩
    unfold readRelationships
    simp [h1, h2, h3, h4, h5, h6, h7, h8, h9, h10, hlast]

theorem readClear_eq_some_iff {a : Action} :
    readClear t = some a ↔ t ∈ Reading.clear.lines * blanks ∧ a = .clear := by
  rw [mem_clear_lines]
  unfold readClear
  constructor
  · intro h
    obtain ⟨r, hr, h⟩ := Option.bind_eq_some_iff.mp h
    split at h
    · rename_i hnil
      exact ⟨⟨r, hr, hnil⟩, (Option.some.inj h).symm⟩
    · exact absurd h (by simp)
  · rintro ⟨⟨r, hr, hnil⟩, rfl⟩
    simp [hr, hnil]

/-! ## Creations -/

theorem mem_create_boundary :
    t ∈ keyword "create" * boundary
      ↔ ∃ r, keyword? "create" t = some r ∧ continuesWord r = false := mem_keyword_mul

/-- A creation starts with its keyword, and no other line does. -/
theorem shape_eq_create_iff (h : t ∈ p.lines) :
    p.shape = .create ↔ t ∈ keyword "create" * boundary := by
  constructor
  · intro hshape
    cases p with
    | create n type body =>
      obtain ⟨r, hr, hnode⟩ := mem_create_lines.mp (mem_mul_blanks h)
      obtain ⟨u, hu, -⟩ := createdNode?_eq_some_iff.mp hnode
      refine mem_create_boundary.mpr ⟨r, hr, continuesWord_of_stripLeft ?_⟩
      rw [symbol?_eq_some_iff.mp hu]
      exact (by decide : isWord '(' = false)
    | _ => exact absurd hshape (by simp [Reading.shape])
  · intro hcreate
    obtain ⟨r, hr, -⟩ := mem_create_boundary.mp hcreate
    obtain ⟨u, hu⟩ := keyword?_of_mem h
    have hopen := opening_inj (a := .create) hr hu
    revert hopen
    generalize p.shape = a
    cases a <;> decide

/-- A literal that is read off stands between braces. -/
theorem exists_braced (s : List Char) :
    ∃ body, (splitLiteral s).1 = Option.map Literal.braced body := by
  unfold splitLiteral
  split
  · exact ⟨none, rfl⟩
  · rename_i r _
    split
    · exact ⟨none, rfl⟩
    · refine ⟨some (String.ofList (r.takeWhile (· != '\x7d'))), ?_⟩
      rw [Option.map_some, Option.some.injEq, ← String.toList_inj, Literal.toList_braced,
        String.toList_ofList, String.toList_ofList, List.cons_append]

/-- A line that starts with the keyword of a creation is read as one, or refused. -/
theorem asks_readCreate {line : String} (ht : Trimmed line.toList)
    (hcreate : line.toList ∈ keyword "create" * boundary) :
    ∃ r : Except (Halt Command.Fault) Action,
      readCreate line = r.map some ∧ Asks line.toList r := by
  obtain ⟨r, hr, hword⟩ := mem_create_boundary.mp hcreate
  unfold readCreate
  rw [hr]
  dsimp only
  rw [if_neg (by rw [hword]; simp)]
  cases hnode : createdNode? r with
  | none =>
    refine ⟨.error (.reported (.malformedCreate line)), rfl, ?_⟩
    have hasks := Asks.malformed hcreate fun p hp => ?_
    · rwa [String.ofList_toList] at hasks
    · have hshape := (shape_eq_create_iff hp).mpr hcreate
      cases p with
      | create n type body =>
        obtain ⟨u, hu, hsome⟩ := mem_create_lines.mp (mem_mul_blanks hp)
        obtain rfl : r = u := Option.some.inj (hr.symm.trans hu)
        rw [hnode] at hsome
        exact absurd hsome (by simp)
      | _ => exact absurd hshape (by simp [Reading.shape])
  | some found =>
    obtain ⟨n, type, literal⟩ := found
    obtain ⟨r₁, h1, r₂, h2, r₃, h3, -⟩ := createdNode?_eq_some_iff.mp hnode
    obtain ⟨body, hbody⟩ := exists_braced r₂
    rw [h3] at hbody
    obtain rfl : literal = body.map Literal.braced := hbody
    have hp : line.toList ∈ (Reading.create n type body).lines :=
      (mem_mul_blanks_iff ht).mp (mem_create_lines.mpr ⟨r, hr, hnode⟩)
    refine ⟨_, ?_, Asks.reading _ hp fun hshape => absurd hshape (by simp [Reading.shape])⟩
    cases body with
    | none => rfl
    | some body =>
      show (Literal.parse (Literal.braced body) >>= _) = Except.map some _
      unfold Reading.action
      show _ = Except.map some (Literal.parse (Literal.braced body) >>= _)
      cases Literal.parse (Literal.braced body) <;> rfl

theorem readCreate_of_not_mem {line : String} (h : line.toList ∉ keyword "create" * boundary) :
    readCreate line = .ok none := by
  unfold readCreate
  cases hr : keyword? "create" line.toList with
  | none => rfl
  | some r =>
    refine if_pos ?_
    cases hword : continuesWord r with
    | true => rfl
    | false => exact absurd (mem_create_boundary.mpr ⟨r, hr, hword⟩) h

/-! ## The first shape -/

theorem readFirst_cons (shape : Shape) (shapes : List Shape) (line : String) :
    readFirst line (shape :: shapes) =
      match shape.read? line with
      | .error halt => .error halt
      | .ok (some action) => .ok action
      | .ok none => readFirst line shapes := by
  rw [readFirst]
  cases shape.read? line with
  | error halt => rfl
  | ok found => cases found <;> rfl

theorem not_mem_of_readNodes (h : readNodes t = none) {q : Reading} (hshape : q.shape = .nodes) :
    t ∉ q.lines := by
  intro hq
  cases q with
  | nodes n type returns =>
    have hsome := readNodes_eq_some_iff.mpr ⟨n, type, returns, hq, rfl⟩
    rw [h] at hsome
    exact absurd hsome (by simp)
  | _ => exact absurd hshape (by simp [Reading.shape])

/-- A line that no shape takes has no reading. -/
theorem not_mem_of_read (hcreate : t ∉ keyword "create" * boundary) (hnodes : readNodes t = none)
    (hall : readAllNodes t = none) (hrel : readRelationships t = none)
    (hclear : readClear t = none) (p : Reading) : t ∉ p.lines := by
  intro hp
  cases p with
  | create n type body => exact hcreate ((shape_eq_create_iff hp).mp rfl)
  | nodes n type returns => exact not_mem_of_readNodes hnodes rfl hp
  | allNodes n =>
    have hsome := readAllNodes_eq_some_iff.mpr ⟨n, hp, rfl⟩
    rw [hall] at hsome
    exact absurd hsome (by simp)
  | relationships source n type target returns =>
    have hsome := readRelationships_eq_some_iff.mpr
      ⟨source, n, type, target, returns, mem_mul_blanks hp, rfl⟩
    rw [hrel] at hsome
    exact absurd hsome (by simp)
  | clear =>
    have hsome := readClear_eq_some_iff.mpr ⟨mem_mul_blanks hp, rfl⟩
    rw [hclear] at hsome
    exact absurd hsome (by simp)

/-- The first shape that a trimmed line has decides what it asks for. -/
theorem asks_readFirst {line : String} (ht : Trimmed line.toList) :
    Asks line.toList (readFirst line all) := by
  unfold all
  rw [readFirst_cons]
  show Asks _ (match readCreate line with
    | .error halt => .error halt
    | .ok (some action) => .ok action
    | .ok none => readFirst line [nodes, allNodes, relationships, clear])
  by_cases hcreate : line.toList ∈ keyword "create" * boundary
  · obtain ⟨r, hr, hasks⟩ := asks_readCreate ht hcreate
    rw [hr]
    cases r <;> exact hasks
  rw [readCreate_of_not_mem hcreate]
  simp only [readFirst_cons, read?]
  cases hnodes : readNodes line.toList with
  | some a =>
    obtain ⟨n, type, returns, hp, rfl⟩ := readNodes_eq_some_iff.mp hnodes
    exact Asks.reading _ hp fun hshape => absurd hshape (by simp [Reading.shape])
  | none =>
  cases hall : readAllNodes line.toList with
  | some a =>
    obtain ⟨n, hp, rfl⟩ := readAllNodes_eq_some_iff.mp hall
    exact Asks.reading _ hp fun _ q => not_mem_of_readNodes hnodes
  | none =>
  cases hrel : readRelationships line.toList with
  | some a =>
    obtain ⟨source, n, type, target, returns, hp, rfl⟩ := readRelationships_eq_some_iff.mp hrel
    exact Asks.reading _ ((mem_mul_blanks_iff ht).mp hp)
      fun hshape => absurd hshape (by simp [Reading.shape])
  | none =>
  cases hclear : readClear line.toList with
  | some a =>
    obtain ⟨hp, rfl⟩ := readClear_eq_some_iff.mp hclear
    exact Asks.reading _ ((mem_mul_blanks_iff ht).mp hp)
      fun hshape => absurd hshape (by simp [Reading.shape])
  | none => exact Asks.unknown hcreate (not_mem_of_read hcreate hnodes hall hrel hclear)

end PropertyGraph.Shape

namespace PropertyGraph.Command

open Text Shape

/-- What a line is understood as: the command it asks for when its blanks are trimmed. -/
inductive Understood (line : String) : Except (Halt Fault) Command → Prop where
  | empty (h : Blanks line.toList) : Understood line (.error (.reported (.empty line)))
  | command {r : Except (Halt Fault) Action} (h : ¬ Blanks line.toList)
    (hr : Asks (strip line.toList) r) : Understood line (r.map fun action => ⟨trim line, action⟩)

theorem trim_eq_empty_iff {line : String} : trim line = "" ↔ Blanks line.toList := by
  rw [← String.toList_eq_nil_iff, toList_trim, strip_eq_nil_iff]
  rfl

theorem understood_parse (line : String) : Understood line (parse Shape.all line) := by
  unfold parse
  dsimp only
  by_cases hblank : Blanks line.toList
  · rw [if_pos (trim_eq_empty_iff.mpr hblank)]
    exact .empty hblank
  · rw [if_neg (mt trim_eq_empty_iff.mp hblank)]
    have htrim : Trimmed (trim line).toList := by
      rw [toList_trim]
      exact strip_trimmed _
    have hasks := asks_readFirst htrim
    rw [toList_trim] at hasks
    have hcommand := Understood.command hblank hasks
    cases hr : readFirst (trim line) Shape.all with
    | error halt =>
      rw [hr] at hcommand
      exact hcommand
    | ok action =>
      rw [hr] at hcommand
      exact hcommand

theorem Understood.unique {line : String} {a b : Except (Halt Fault) Command}
    (ha : Understood line a) (hb : Understood line b) : a = b := by
  cases ha with
  | empty h =>
    cases hb with
    | empty => rfl
    | command h' => exact absurd h h'
  | command h hr =>
    cases hb with
    | empty h' => exact absurd h' h
    | command _ hr' => rw [hr.unique hr']

/--
**Parsing follows the grammar, and the grammar leaves no choice.** A line is parsed as what it is
understood as, and each shape captures its parts in one way only. A literal between braces is
refused exactly if it leaves a quote open. If it does not, the first of its values that has too many
digits, and only that, ends the parsing without a report.
-/
theorem parse_iff_understood (line : String) :
    (∀ r, parse Shape.all line = r ↔ Understood line r)
      ∧ (∀ t, Set.InjOn Reading.shape {p : Reading | t ∈ p.lines})
      ∧ (∀ body fault, Literal.parse (Literal.braced body) = .error (.reported fault)
          ↔ ∃ q, Literal.openQuote none body.toList = some q
            ∧ fault = .unclosedQuote q (trim body))
      ∧ ∀ body n, Literal.parse (Literal.braced body) = .error (.longNumeral n)
          ↔ Literal.openQuote none body.toList = none ∧ Literal.FirstLong body.toList n :=
  ⟨fun _ => ⟨fun h => h ▸ understood_parse line, fun h => (understood_parse line).unique h⟩,
    injOn_shape, fun _ _ => Literal.parse_braced_eq_reported_iff,
    fun _ _ => Literal.parse_braced_eq_longNumeral_iff⟩

end PropertyGraph.Command
