import PropertyGraph.Command.Basic
import PropertyGraph.Decimal.Reading

/-!
# Property literals

A property literal is a text such as {name: "Alice", age: 30}: entries between braces,
separated by commas, each a key and a value around its first colon. A comma inside a quoted string
does not separate, and a quote is closed by the next quote of the same kind. An entry without a
colon or without a key is passed over. The written form of a value decides its type: quoted text,
digits, digits around a point, one of three words, and otherwise the text itself. Digits are a
number only up to a limit; the first value with more of them ends the reading.
-/

namespace PropertyGraph.Literal

open Text Decimal

/-! ## Entries -/

def isQuote (c : Char) : Bool := c == '\'' || c == '"'

/-- The open quote after one more character. -/
def stepQuote : Option Char → Char → Option Char
  | none, c => if isQuote c then some c else none
  | some q, c => if c = q then none else some q

/-- The open quote at the end of a text that starts with the given one open. -/
def openQuote (quote : Option Char) (s : List Char) : Option Char := s.foldl stepQuote quote

/-- The pieces of a text between the commas that stand outside quotes; there is at least one. -/
def pieces (quote : Option Char) : List Char → List (List Char)
  | [] => [[]]
  | c :: s =>
    if quote = none ∧ c = ',' then [] :: pieces none s
    else
      match pieces (stepQuote quote c) s with
      | [] => [[c]]
      | p :: ps => (c :: p) :: ps

/-- The entries of a text: its trimmed pieces that are not blank. -/
def entries (s : List Char) : List (List Char) :=
  ((pieces none s).map strip).filter (· ≠ [])

/-- The entries of a text, unless a quote in it is never closed. -/
def splitEntries (content : String) : Except Command.Fault (List String) :=
  match openQuote none content.toList with
  | some quote => .error (.unclosedQuote quote content)
  | none => .ok ((entries content.toList).map String.ofList)

@[simp] theorem openQuote_nil (quote : Option Char) : openQuote quote [] = quote := rfl

@[simp] theorem openQuote_cons (quote : Option Char) (c : Char) (s : List Char) :
    openQuote quote (c :: s) = openQuote (stepQuote quote c) s := rfl

@[simp] theorem openQuote_append (quote : Option Char) (s t : List Char) :
    openQuote quote (s ++ t) = openQuote (openQuote quote s) t := by
  simp [openQuote]

theorem pieces_ne_nil (quote : Option Char) (s : List Char) : pieces quote s ≠ [] := by
  cases s with
  | nil => simp [pieces]
  | cons c s =>
    simp only [pieces]
    split
    · simp
    · split <;> simp

/-! ## Values -/

/-- A text without a line break at its end. -/
def dropLineBreak (s : List Char) : List Char :=
  if s.getLast? = some '\n' then s.dropLast else s

/-- The content of a text that stands between two equal quotes. -/
def unquote? (s : List Char) : Option (List Char) :=
  match s with
  | q :: r => if isQuote q ∧ r.getLast? = some q then some r.dropLast else none
  | [] => none

/-- The number that a text of digits denotes, unless it has too many digits. -/
def natural? (s : List Char) : Option (Except LongNumeral Nat) :=
  (digits? digitValue? (dropLineBreak s)).map integer

/-- The decimal that a text of digits around a point denotes. -/
def decimal? (s : List Char) : Option Decimal :=
  match (dropLineBreak s).span (· != '.') with
  | (ones, _ :: places) => do
    let ones ← digits? digitValue? ones
    let places ← digits? digitValue? places
    return ⟨ofDigits (ones ++ places), -(places.length : Int)⟩
  | (_, []) => none

/-- The words that stand for a value. -/
def word? (s : List Char) : Option Scalar :=
  if s = "true".toList then some (.bool true)
  else if s = "false".toList then some (.bool false)
  else if s = "null".toList then some .null
  else none

/-- The value a text stands for, decided by its form. -/
def value (s : List Char) : Except LongNumeral Scalar :=
  match unquote? s with
  | some inner => .ok (.text (String.ofList inner))
  | none =>
    match natural? s with
    | some n => n.map fun (n : Nat) => .int n
    | none =>
      match decimal? s with
      | some d => .ok (.float d.toFloat)
      | none => .ok ((word? s).getD (.text (String.ofList s)))

/-! ## Literals -/

/-- A text without an opening brace at its front and a closing one at its end. -/
def dropBraces (s : List Char) : List Char :=
  let s := if s.head? = some '\x7b' then s.tail else s
  if s.getLast? = some '\x7d' then s.dropLast else s

/-- The key of an entry and the text of its value, unless it lacks its colon or its key. -/
def entry? (s : List Char) : Option (String × List Char) :=
  match s.span (· != ':') with
  | (_, []) => none
  | (key, _ :: text) =>
    if strip key = [] then none else some (String.ofList (strip key), strip text)

/-- The pairs of entries, up to the first value that is a numeral with too many digits. -/
def pairs (es : List (List Char)) : Except LongNumeral (List (String × Scalar)) :=
  (es.filterMap entry?).mapM fun e => (value e.2).map (e.1, ·)

/-- The property map of a literal, with or without its braces. -/
def parse (literal : String) : Except (Halt Command.Fault) Properties := do
  let content := strip (dropBraces (strip literal.toList))
  let es ← (splitEntries (String.ofList content)).mapError .reported
  let ps ← (pairs (es.map String.toList)).mapError .longNumeral
  return OrderedMap.ofList ps

end PropertyGraph.Literal
