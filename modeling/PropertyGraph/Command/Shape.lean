import PropertyGraph.Command.Literal

/-!
# Command shapes

A shape is one form a command line can have. Keywords are read in either case, blanks may stand
between any two parts, and a name is a run of word characters. Each reader takes a text apart from
the front and returns what is left, so a shape reads a line in one way only: a name always extends
as far as it can, and what follows it is no word character.
-/

namespace PropertyGraph

open Text

/-- The forms of a command line. -/
inductive Shape where
  | create
  | nodes
  | allNodes
  | relationships
  | clear
deriving DecidableEq

namespace Shape

/-- All shapes, in the order in which a line is tried on them. -/
def all : List Shape := [create, nodes, allNodes, relationships, clear]

/-! ## Parts of a line -/

/-- What follows a keyword, given in lower case, at the front of a text. -/
def dropLetters? : List Char → List Char → Option (List Char)
  | [], s => some s
  | k :: ks, c :: s => if isLetter k c then dropLetters? ks s else none
  | _ :: _, [] => none

/-- What follows a keyword at the front of a text. -/
def keyword? (word : String) (s : List Char) : Option (List Char) := dropLetters? word.toList s

/-- What follows a symbol, which may have blanks before it. -/
def symbol? (c : Char) (s : List Char) : Option (List Char) :=
  match stripLeft s with
  | [] => none
  | d :: r => if d = c then some r else none

/-- The name at the front of a text, after blanks, and what follows it; the name may be empty. -/
def splitName (s : List Char) : String × List Char :=
  (String.ofList ((stripLeft s).takeWhile isWord), (stripLeft s).dropWhile isWord)

/-- The name at the front of a text, after blanks, if there is one. -/
def name? (s : List Char) : Option (String × List Char) :=
  let (n, rest) := splitName s
  if n = "" then none else some (n, rest)

def continuesWord (s : List Char) : Bool := s.head?.any isWord

/-- A type after a colon, if there is one. -/
def splitType (s : List Char) : Option (Option String × List Char) :=
  match symbol? ':' s with
  | none => some (none, s)
  | some r => (name? r).map fun (type, rest) => (some type, rest)

/-- A property literal between braces, if there is one. -/
def splitLiteral (s : List Char) : Option String × List Char :=
  match symbol? '\x7b' s with
  | none => (none, s)
  | some r =>
    match r.dropWhile (· != '\x7d') with
    | [] => (none, s)
    | _ :: rest =>
      (some (String.ofList ('\x7b' :: r.takeWhile (· != '\x7d') ++ ['\x7d'])), rest)

/-- What follows the keyword that introduces a returned name, after blanks. -/
def returnKeyword? (s : List Char) : Option (List Char) := keyword? "return" (stripLeft s)

/-- The returned name after its keyword, with at least one blank between. -/
def returned? (s : List Char) : Option (String × List Char) := do
  let s ← returnKeyword? s
  if s.head?.any isBlank then name? s else none

/-! ## Lines -/

/-- The parts of a node between the parentheses of a creation: its name, type and literal. -/
def createdNode? (s : List Char) : Option (Option String × String × Option String) := do
  let s ← symbol? '(' s
  let (first, s) := splitName s
  let (name, type, s) ← match symbol? ':' s with
    | some r => do
      let (type, r) ← name? r
      pure (if first = "" then none else some first, type, r)
    | none => if first = "" then none else pure (none, first, s)
  let (literal, s) := splitLiteral s
  let s ← symbol? ')' s
  if stripLeft s = [] then some (name, type, literal) else none

/-- A creation. A line that starts with the keyword has to be one. -/
def readCreate (line : String) : Except (Halt Command.Fault) (Option Action) :=
  match keyword? "create" line.toList with
  | none => .ok none
  | some s =>
    if continuesWord s then .ok none
    else
      match createdNode? s with
      | none => .error (.reported (.malformedCreate line))
      | some (name, type, literal) => do
        let properties ← literal.elim (pure ∅) Literal.parse
        return some (.create (name.getD Command.defaultName) type properties)

/-- A selection of nodes that names what it returns. -/
def readNodes (s : List Char) : Option Action := do
  let s ← keyword? "match" s
  let s ← symbol? '(' s
  let (name, s) := splitName s
  let (type, s) ← splitType s
  let s ← symbol? ')' s
  let (returns, _) ← returned? s
  return .selectNodes name type returns

/-- A selection of all nodes, whatever it returns. -/
def readAllNodes (s : List Char) : Option Action := do
  let s ← keyword? "match" s
  let s ← symbol? '(' s
  let s ← symbol? ')' (splitName s).2
  let s ← returnKeyword? s
  if continuesWord s then none else return .selectAllNodes

/-- The name that ends a selection of relationships, or its default. -/
def lastReturn? (s : List Char) : Option String :=
  if stripLeft s = [] then some Command.defaultReturn
  else do
    let (returns, s) ← returned? s
    if stripLeft s = [] then some returns else none

/-- A selection of relationships. -/
def readRelationships (s : List Char) : Option Action := do
  let s ← keyword? "match" s
  let s ← symbol? '(' s
  let (source, s) := splitName s
  let s ← symbol? ')' s
  let s ← symbol? '-' s
  let s ← symbol? '[' s
  let (name, s) := splitName s
  let (type, s) ← splitType s
  let s ← symbol? ']' s
  let s ← symbol? '-' s
  let s ← symbol? '(' s
  let (target, s) := splitName s
  let s ← symbol? ')' s
  let returns ← lastReturn? s
  return .selectRelationships { type, name, source, target, returns }

/-- The command that clears the graph. -/
def readClear (s : List Char) : Option Action := do
  let s ← keyword? "clear" s
  if stripLeft s = [] then return .clear else none

/-- The action a line of a shape asks for, if the line has that shape. -/
def read? (shape : Shape) (line : String) : Except (Halt Command.Fault) (Option Action) :=
  match shape with
  | create => readCreate line
  | nodes => .ok (readNodes line.toList)
  | allNodes => .ok (readAllNodes line.toList)
  | relationships => .ok (readRelationships line.toList)
  | clear => .ok (readClear line.toList)

/-- The action of the first shape that a line has. -/
def readFirst (line : String) : List Shape → Except (Halt Command.Fault) Action
  | [] => .ok .unknown
  | shape :: shapes => do
    match ← shape.read? line with
    | some action => return action
    | none => readFirst line shapes

end Shape

/-- The command of a line: its blanks trimmed, it takes the action of the first shape it has. -/
def Command.parse (shapes : List Shape) (line : String) : Except (Halt Command.Fault) Command := do
  let text := trim line
  if text = "" then .error (.reported (.empty line))
  else return ⟨text, ← Shape.readFirst text shapes⟩

end PropertyGraph
