import PropertyGraph.DateTime.Notation
import PropertyGraph.Document
import PropertyGraph.Violation

/-!
# From documents to typed values

Each function takes a document to a value of one type or names the problem with it. A number is
accepted where it denotes the same thing in another type: an integer or a truth value for a float,
a whole float for an integer, a numeral in a text for either, a number for a date-time. A text is
only taken from a text.
-/

namespace PropertyGraph.Document

open Decimal

/-- The text a document is. -/
def asText : Document → Checked String
  | .scalar (.text s) => .accepted s
  | _ => .fail .notText

/-- The text a document is, or nothing. -/
def asText? : Document → Checked (Option String)
  | .scalar .null => .accepted none
  | d => d.asText.map some

/-- The items of a list. -/
def asList : Document → Checked (List Document)
  | .list items => .accepted items
  | _ => .fail .notList

/-- The entries of a map. -/
def asMap : Document → Checked (List (String × Document))
  | .map entries => .accepted entries
  | _ => .fail .notMap

/-- The float a document denotes. An integer too large for any float is refused. -/
def asFloat : Document → Checked Float
  | .scalar (.float x) => .accepted x
  | .scalar (.int n) =>
    let x := Float.ofInt n
    if x.isInf then .fail .notFloat else .accepted x
  | .scalar (.bool b) => .accepted (if b then 1 else 0)
  | .scalar (.text s) => (real? s.toList).elim (.fail .malformedFloat) .accepted
  | _ => .fail .notFloat

/-- The float a document denotes, or nothing. -/
def asFloat? : Document → Checked (Option Float)
  | .scalar .null => .accepted none
  | d => d.asFloat.map some

/-- The number of integers of 64 bits that are not negative. -/
def wordLimit : Nat := 9223372036854775808

/-- The integer a float is, if it is whole and in size below the limit. -/
def integerOf (x : Float) : Checked Int :=
  if !isFinite x then .fail .infiniteInt
  else
    let (num, den) := fraction x
    if num % den ≠ 0 then .fail .fractionalInt
    else if wordLimit ≤ num / den then .fail .outsizedInt
    else .accepted (if isSigned x then -(num / den : Nat) else (num / den : Nat))

/-- The integer a document denotes. -/
def asInt : Document → Checked Int
  | .scalar (.int n) => .accepted n
  | .scalar (.bool b) => .accepted (if b then 1 else 0)
  | .scalar (.float x) => integerOf x
  | .scalar (.text s) => (whole? s.toList).elim (.fail .malformedInt) .accepted
  | _ => .fail .notInt

/-- The words for the truth values, in lower case. -/
def truthWords : List (String × Bool) :=
  [("0", false), ("off", false), ("f", false), ("false", false), ("n", false), ("no", false),
   ("1", true), ("on", true), ("t", true), ("true", true), ("y", true), ("yes", true)]

/-- The truth value an integer denotes; one of more than 64 bits is not even looked at. -/
def truthOf (n : Int) : Checked Bool :=
  if n = 0 then .accepted false
  else if n = 1 then .accepted true
  else .fail (if -(wordLimit : Int) ≤ n ∧ n < wordLimit then .malformedBool else .notBool)

/-- The truth value a document denotes. -/
def asBool : Document → Checked Bool
  | .scalar (.bool b) => .accepted b
  | .scalar (.int n) => truthOf n
  | .scalar (.float x) =>
    match integerOf x with
    | .accepted n => truthOf n
    | .refused _ => .fail .notBool
  | .scalar (.text s) =>
    match truthWords.lookup (String.ofList (s.toList.map Char.toLower)) with
    | some b => .accepted b
    | none => .fail .malformedBool
  | _ => .fail .notBool

/-- Accepts a date-time that a clock can show. -/
def checkCalendar (t : DateTime) : Checked DateTime :=
  if t.isInCalendar then .accepted t else .fail .outOfCalendar

/-- The date-time a document denotes. An integer too large for any float is refused as no number. -/
def asDateTime : Document → Checked DateTime
  | .scalar (.text s) => (DateTime.ofText? s).elim (.fail .malformedDateTime) checkCalendar
  | .scalar (.int n) =>
    if (Float.ofInt n).isInf then .fail .notDateTime
    else (DateTime.ofCount? n).elim (.fail .outOfCalendar) checkCalendar
  | .scalar (.float x) => (DateTime.ofFloat? x).elim (.fail .outOfCalendar) checkCalendar
  | _ => .fail .notDateTime

/-! ## Fields -/

/-- The value of a field, which may go under either of two names; the first is preferred. -/
def field? (entries : List (String × Document)) (name other : String) : Option Document :=
  (entries.lookup name).or (entries.lookup other)

/-- Reads a field that has to be present. -/
def required {α : Type} (entries : List (String × Document)) (name other : String)
    (read : Document → Checked α) : Checked α :=
  ((field? entries name other).elim (.fail .missing) read).within (.field name)

/-- Reads a field that has a default. -/
def optional {α : Type} (entries : List (String × Document)) (name other : String) (default : α)
    (read : Document → Checked α) : Checked α :=
  ((field? entries name other).elim (.accepted default) read).within (.field name)

end PropertyGraph.Document
