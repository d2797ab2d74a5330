import PropertyGraph.Proofs.CommandLine

/-!
# Shapes in any order

A shape takes a line if it reads it as one of its own, or refuses it as a malformed one; all other
lines it lets pass. A line that is taken starts with the keyword of the shape, and after its first
parenthesis a selection of nodes goes on with a keyword where one of relationships goes on with a
dash. So two shapes take the same line only if they are the two selections of nodes.

With these two in their order, the shape that a line ends up with is told by the line alone,
`find?_takes_iff`. In which order the shapes are listed does not matter otherwise.
-/

namespace PropertyGraph.Shape

open Text Grammar

variable {a b : Shape} {line : String} {s : List Char}

/-- Reads a line as one of its own. -/
def Accepts (a : Shape) (line : String) : Prop := ∃ action, a.read? line = .ok (some action)

/-- Refuses a line as a malformed one of its own. -/
def Refuses (a : Shape) (line : String) : Prop := ∃ fault, a.read? line = .error fault

/-- Whether a shape does not let a line pass. -/
def takes (a : Shape) (line : String) : Bool :=
  match a.read? line with
  | .ok none => false
  | _ => true

theorem takes_eq_false_iff : a.takes line = false ↔ a.read? line = .ok none := by
  unfold takes
  split
  · rename_i h
    simp [h]
  · rename_i h
    simpa using h

theorem Accepts.takes (h : a.Accepts line) : a.takes line = true := by
  obtain ⟨action, h⟩ := h
  unfold Shape.takes
  rw [h]

theorem Refuses.takes (h : a.Refuses line) : a.takes line = true := by
  obtain ⟨fault, h⟩ := h
  unfold Shape.takes
  rw [h]

/-! ## Two shapes on one line -/

theorem keyword?_of_takes (h : a.takes line = true) :
    ∃ r, keyword? a.opening line.toList = some r := by
  cases hk : keyword? a.opening line.toList with
  | some r => exact ⟨r, rfl⟩
  | none =>
    -- every shape looks for its keyword first
    have hpass : a.read? line = .ok none := by
      cases a with
      | create => simp [read?, readCreate, show keyword? "create" _ = none from hk]
      | nodes => simp [read?, readNodes, show keyword? "match" _ = none from hk]
      | allNodes => simp [read?, readAllNodes, show keyword? "match" _ = none from hk]
      | relationships => simp [read?, readRelationships, show keyword? "match" _ = none from hk]
      | clear => simp [read?, readClear, show keyword? "clear" _ = none from hk]
    rw [takes_eq_false_iff.mpr hpass] at h
    exact absurd h Bool.false_ne_true

/-- After the dash of a relationship no name is returned, and all is not either. -/
theorem selects_no_nodes {action : Action} (h : readRelationships s = some action) :
    readNodes s = none ∧ readAllNodes s = none := by
  obtain ⟨source, n, type, target, returns, hs, -⟩ := readRelationships_eq_some_iff.mp h
  obtain ⟨r₁, h1, r₂, h2, -, r₃, h3, r₄, h4, -⟩ := Reading.mem_relationships_lines.mp hs
  have hkeyword : returnKeyword? r₃ = none := by
    cases hr : returnKeyword? r₃ with
    | none => rfl
    | some u => exact (not_return_of_symbol (by decide) h4 hr).elim
  have hreturned : returned? r₃ = none := by
    unfold returned?
    rw [hkeyword]
    rfl
  have htype : splitType (splitName r₂).2 = some (none, (splitName r₂).2) := by
    unfold splitType
    rw [symbol?_ne h3 (by decide)]
  constructor
  · unfold readNodes
    simp [h1, h2, h3, htype, hreturned]
  · unfold readAllNodes
    simp [h1, h2, h3, hkeyword]

theorem not_relationships_of_takes (ha : relationships.takes line = true)
    (hb : b.takes line = true) : b ≠ .nodes ∧ b ≠ .allNodes := by
  have hnot : ∀ c : Shape, c.read? line = .ok none → c ≠ b := by
    rintro c hc rfl
    rw [takes_eq_false_iff.mpr hc] at hb
    exact absurd hb Bool.false_ne_true
  cases hr : readRelationships line.toList with
  | none =>
    have hpass : relationships.read? line = .ok none := by rw [read?, hr]
    rw [takes_eq_false_iff.mpr hpass] at ha
    exact absurd ha Bool.false_ne_true
  | some action =>
    obtain ⟨hnodes, hall⟩ := selects_no_nodes hr
    exact ⟨(hnot .nodes (by rw [read?, hnodes])).symm, (hnot .allNodes (by rw [read?, hall])).symm⟩

/-- **Only the two selections of nodes take the same line.** -/
theorem eq_or_of_takes (ha : a.takes line = true) (hb : b.takes line = true) :
    a = b ∨ (a = .nodes ∧ b = .allNodes) ∨ (a = .allNodes ∧ b = .nodes) := by
  obtain ⟨r, hr⟩ := keyword?_of_takes ha
  obtain ⟨u, hu⟩ := keyword?_of_takes hb
  have hopening : a.opening = b.opening := opening_inj hr hu
  have hleft : a = .relationships → b ≠ .nodes ∧ b ≠ .allNodes := by
    rintro rfl
    exact not_relationships_of_takes ha hb
  have hright : b = .relationships → a ≠ .nodes ∧ a ≠ .allNodes := by
    rintro rfl
    exact not_relationships_of_takes hb ha
  revert hopening hleft hright
  cases a <;> cases b <;> decide

/-! ## The first shape that takes a line -/

/-- What a list of shapes makes of a line is what the first makes of it that takes it. -/
theorem readFirst_eq (line : String) (shapes : List Shape) :
    readFirst line shapes = (shapes.find? (·.takes line)).elim (.ok .unknown)
      fun a => (a.read? line).map (·.getD .unknown) := by
  induction shapes with
  | nil => rfl
  | cons a shapes ih =>
    rw [readFirst_cons, List.find?_cons]
    unfold takes
    cases hr : a.read? line with
    | error fault => simp [Except.map, hr]
    | ok found =>
      cases found with
      | none => exact ih
      | some action => simp [Except.map, hr]

/-- Where all shapes are listed, and the selections of nodes in their order, the line alone tells
which shape takes it first. -/
theorem find?_takes_iff {shapes : List Shape} (hall : ∀ a, a ∈ shapes)
    (horder : shapes.idxOf .nodes < shapes.idxOf .allNodes) :
    shapes.find? (·.takes line) = some a
      ↔ a.takes line = true ∧ (a = .allNodes → nodes.takes line = false) := by
  have hfirst : ∀ b, shapes.find? (·.takes line) = some b →
      b.takes line = true ∧ (b = .allNodes → nodes.takes line = false) := by
    intro b hb
    obtain ⟨htakes, before, after, rfl, hbefore⟩ := List.find?_eq_some_iff_append.mp hb
    refine ⟨htakes, ?_⟩
    rintro rfl
    -- whatever stands before the first one lets the line pass, and the other selection does so
    have hmem : Shape.nodes ∈ before := by
      by_contra hnot
      rw [List.idxOf_append_of_notMem hnot] at horder
      have hle : (before ++ .allNodes :: after).idxOf .allNodes ≤ before.length := by
        rw [List.idxOf_append]
        split
        · exact List.idxOf_le_length
        · simp
      omega
    simpa using hbefore .nodes hmem
  constructor
  · exact hfirst a
  · rintro ⟨htakes, hlast⟩
    cases hb : shapes.find? (·.takes line) with
    | none =>
      have hnone := List.find?_eq_none.mp hb a (hall a)
      exact absurd htakes hnone
    | some b =>
      obtain ⟨htakes', hlast'⟩ := hfirst b hb
      rcases eq_or_of_takes htakes htakes' with rfl | ⟨rfl, rfl⟩ | ⟨rfl, rfl⟩
      · rfl
      · rw [hlast' rfl] at htakes
        exact absurd htakes Bool.false_ne_true
      · rw [hlast rfl] at htakes'
        exact absurd htakes' Bool.false_ne_true

theorem mem_all (a : Shape) : a ∈ all := by
  cases a <;> decide

/-- The order of the shapes does not matter, but for that of the two selections of nodes. -/
theorem readFirst_perm {shapes : List Shape} (hperm : shapes.Perm all)
    (horder : shapes.idxOf .nodes < shapes.idxOf .allNodes) (line : String) :
    readFirst line shapes = readFirst line all := by
  have hmem : ∀ a, a ∈ shapes := fun a => hperm.mem_iff.mpr (mem_all a)
  have hfind : shapes.find? (·.takes line) = all.find? (·.takes line) := by
    refine Option.ext fun a => ?_
    rw [find?_takes_iff hmem horder, find?_takes_iff mem_all (by decide)]
  rw [readFirst_eq, readFirst_eq, hfind]

end PropertyGraph.Shape

namespace PropertyGraph.Command

open Shape

/--
**The shapes can be tried in any order**, as long as a selection of nodes that names what it returns
comes before the one of all nodes: every line is parsed as the same command, or has the same fault.
These two are the only shapes that accept the same line, and none refuses what another accepts.
-/
theorem parse_perm :
    (∀ shapes : List Shape, shapes.Perm Shape.all →
        shapes.idxOf .nodes < shapes.idxOf .allNodes →
        ∀ line, parse shapes line = parse Shape.all line)
      ∧ (∀ (line : String) (a b : Shape), a.Accepts line → b.Accepts line →
        a = b ∨ (a = .nodes ∧ b = .allNodes) ∨ (a = .allNodes ∧ b = .nodes))
      ∧ (∀ (line : String) (a b : Shape), a.Accepts line → ¬ b.Refuses line)
      ∧ ∃ line, nodes.Accepts line ∧ allNodes.Accepts line := by
  refine ⟨?order, ?accepted, ?refused, ?overlap⟩
  case order =>
    intro shapes hperm horder line
    unfold parse
    simp only [readFirst_perm hperm horder]
  case accepted =>
    intro line a b ha hb
    exact eq_or_of_takes ha.takes hb.takes
  case refused =>
    rintro line a b ⟨action, ha⟩ ⟨fault, hb⟩
    -- a shape does not do both, and neither selection of nodes refuses anything
    rcases eq_or_of_takes (Accepts.takes ⟨action, ha⟩) (Refuses.takes ⟨fault, hb⟩) with
      rfl | ⟨rfl, rfl⟩ | ⟨rfl, rfl⟩
    · exact absurd (ha.symm.trans hb) (by simp)
    · exact absurd hb (by simp [read?])
    · exact absurd hb (by simp [read?])
  case overlap =>
    exact ⟨"MATCH (n) RETURN n", ⟨.selectNodes "n" none "n", by decide +kernel⟩,
      ⟨.selectAllNodes, by decide +kernel⟩⟩

/-- The shapes from the last to the first, but for the two selections of nodes. -/
theorem parse_perm_reversed :
    [clear, relationships, nodes, allNodes, create].Perm Shape.all
      ∧ [clear, relationships, nodes, allNodes, create].idxOf .nodes
        < [clear, relationships, nodes, allNodes, create].idxOf .allNodes
      ∧ (nodes.Accepts "MATCH (n) RETURN n" ∧ ¬ create.Refuses "MATCH (n) RETURN n")
      ∧ ∀ line, parse [clear, relationships, nodes, allNodes, create] line
        = parse Shape.all line := by
  obtain ⟨horder, -, hrefused, -⟩ := parse_perm
  have hread : nodes.Accepts "MATCH (n) RETURN n" :=
    ⟨.selectNodes "n" none "n", by decide +kernel⟩
  exact ⟨by decide, by decide, ⟨hread, hrefused _ _ .create hread⟩,
    horder _ (by decide) (by decide)⟩

end PropertyGraph.Command
