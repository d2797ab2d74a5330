import PropertyGraph.OrderedMap
import PropertyGraph.Text.Blank
import PropertyGraph.Text.LineBreak

/-!
# Environment files

An environment file binds names to texts, one binding a line: a name, an equals sign and a value,
possibly after the word `export`. A value is plain up to the end of its line or a comment, or it
stands between quotes and may then run over several lines. A line that is not well formed binds
nothing. A reference such as ${NAME} or ${NAME:-default} in a value is replaced by the value of the
name, as far as it is bound before or in the environment.
-/

namespace PropertyGraph.EnvFile

open Text

/-- What a name is bound to; a name that stands without an equals sign is bound to nothing. -/
abbrev Bindings := OrderedMap String (Option String)

/-! ## Lines -/

/-- Whether a character is a blank within a line. -/
def isInlineBlank (c : Char) : Bool := isBlank c && c != '\n'

/-- A text without the blanks that the rest of its first line starts with. -/
def skipInline (s : List Char) : List Char := s.dropWhile isInlineBlank

/-- What follows the first line of a text. -/
def afterLine (s : List Char) : List Char := (s.dropWhile (· != '\n')).drop 1

/-- A text without the word that may stand in front of a name. -/
def dropExport (s : List Char) : List Char :=
  if "export".toList.isPrefixOf s && (s.drop 6).head?.any isInlineBlank then skipInline (s.drop 6)
  else s

/-- What follows a line that ends here, but for blanks and a comment. -/
def lineEnd? (s : List Char) : Option (List Char) :=
  match skipInline s with
  | [] => some []
  | '\n' :: rest => some rest
  | '#' :: rest => some (afterLine rest)
  | _ => none

/-! ## Names and values -/

/-- Whether a character can stand in a name without quotes. -/
def isNameChar (c : Char) : Bool := !isBlank c && c != '=' && c != '#'

/-- A part of a text that is not empty, and what follows it. -/
def nonempty? (part : List Char × List Char) : Option (String × List Char) :=
  if part.1 = [] then none else some (String.ofList part.1, part.2)

/-- The name at the front of a text, possibly between single quotes, and what follows it. -/
def readName (s : List Char) : Option (String × List Char) :=
  match s with
  | '\'' :: r =>
    match r.span (· != '\'') with
    | (name, _ :: rest) => nonempty? (name, rest)
    | (_, []) => none
  | _ => nonempty? (s.span isNameChar)

/--
The content of a quoted value whose opening quote has been read, and what follows its closing quote.
A backslash and the character after it belong to the content together.
-/
def readQuoted (quote : Char) : List Char → Option (List Char × List Char)
  | [] => none
  | '\\' :: d :: s => (readQuoted quote s).map fun (value, rest) => ('\\' :: d :: value, rest)
  | c :: s =>
    if c = quote then some ([], s)
    else (readQuoted quote s).map fun (value, rest) => (c :: value, rest)

/-- What an escape between double quotes stands for. -/
def doubleEscape? (c : Char) : Option Char :=
  match c with
  | '\\' => some '\\'
  | '\'' => some '\''
  | '"' => some '"'
  | 'a' => some '\x07'
  | 'b' => some '\x08'
  | 'f' => some '\x0c'
  | 'n' => some '\n'
  | 'r' => some '\r'
  | 't' => some '\t'
  | 'v' => some '\x0b'
  | _ => none

/-- What an escape between single quotes stands for. -/
def singleEscape? (c : Char) : Option Char :=
  if c = '\\' ∨ c = '\'' then some c else none

/-- A text with its escapes replaced; a backslash that starts none stands for itself. -/
def unescape (escape? : Char → Option Char) : List Char → List Char
  | '\\' :: c :: s =>
    match escape? c with
    | some d => d :: unescape escape? s
    | none => '\\' :: unescape escape? (c :: s)
  | c :: s => c :: unescape escape? s
  | [] => []

/-- A line without the comment that starts after a blank. -/
def cutComment : List Char → List Char
  | [] => []
  | c :: s => if isBlank c ∧ (stripLeft s).head? = some '#' then [] else c :: cutComment s

/-- The value after an equals sign, and what follows it. -/
def readValue (s : List Char) : Option (String × List Char) :=
  match skipInline s with
  | '\'' :: r =>
    (readQuoted '\'' r).map fun (v, rest) => (String.ofList (unescape singleEscape? v), rest)
  | '"' :: r =>
    (readQuoted '"' r).map fun (v, rest) => (String.ofList (unescape doubleEscape? v), rest)
  | _ =>
    let (line, rest) := s.span (· != '\n')
    some (String.ofList (strip (cutComment line)), rest)

/-! ## Bindings -/

/-- A binding if its line ends here, and what follows the line in any case. -/
def closeLine (name : String) (value : Option String) (s : List Char) :
    Option (String × Option String) × List Char :=
  match lineEnd? s with
  | some rest => (some (name, value), rest)
  | none => (none, afterLine s)

/--
The binding of the line at the front of a text that does not start with a blank, if it has one, and
what follows the line.
-/
def readBinding (s : List Char) : Option (String × Option String) × List Char :=
  let start := dropExport s
  match readName start with
  | none => (none, afterLine start)
  | some (name, rest) =>
    match skipInline rest with
    | '=' :: r =>
      match readValue r with
      | none => (none, afterLine r)
      | some (value, rest) => closeLine name (some value) rest
    | rest => closeLine name none rest

/--
The bindings of a text in their order. Each line takes at least one character, so fuel as long as
the text is never used up.
-/
def readBindings : Nat → List Char → List (String × Option String)
  | 0, _ => []
  | fuel + 1, s =>
    match stripLeft s with
    | [] => []
    | c :: r =>
      let (binding, rest) := readBinding (c :: r)
      binding.toList ++ readBindings fuel rest

/-! ## References -/

/-- A reference whose opening brace has been read: its name, its default and what follows it. -/
def readReference (s : List Char) : Option (String × String × List Char) :=
  match s.span fun c => c != '\x7d' && c != ':' with
  | (name, '\x7d' :: rest) => some (String.ofList name, "", rest)
  | (name, ':' :: '-' :: r) =>
    match r.span (· != '\x7d') with
    | (default, _ :: rest) => some (String.ofList name, String.ofList default, rest)
    | (_, []) => none
  | _ => none

/--
A text with its references replaced. Each step takes at least one character, so fuel as long as the
text is never used up.
-/
def expand (find? : String → Option String) : Nat → List Char → List Char
  | 0, _ => []
  | fuel + 1, s =>
    match s with
    | [] => []
    | '$' :: '\x7b' :: r =>
      match readReference r with
      | some (name, default, rest) =>
        ((find? name).getD default).toList ++ expand find? fuel rest
      | none => '$' :: expand find? fuel ('\x7b' :: r)
    | c :: r => c :: expand find? fuel r

/-- The value of a name: what it is bound to, or else what it is in the environment. -/
def valueOf? (bound : Bindings) (environment : OrderedMap String String) (name : String) :
    Option String :=
  match bound.get? name with
  | some value => some (value.getD "")
  | none => environment.get? name

/-- Adds a binding, its references replaced. -/
def bind (environment : OrderedMap String String) (bound : Bindings)
    (binding : String × Option String) : Bindings :=
  bound.insert binding.1 <| binding.2.map fun value =>
    String.ofList (expand (valueOf? bound environment) (value.length + 1) value.toList)

/-- A text without the mark of its byte order in front. -/
def dropMark : List Char → List Char
  | '\uFEFF' :: s => s
  | s => s

/-- The bindings of an environment file. -/
def read (environment : OrderedMap String String) (text : String) : Bindings :=
  let s := LineBreak.unify (dropMark text.toList)
  (readBindings (s.length + 1) s).foldl (bind environment) ∅

end PropertyGraph.EnvFile
