import PropertyGraph.Decimal.Basic
import PropertyGraph.Text.Blank
import PropertyGraph.Text.Case
import PropertyGraph.Text.Word

/-!
# Reading numerals

Numerals are read from lists of characters. A run of digits may have single underscores between its
digits where the form allows it. `real?` reads the usual forms of a number with a fraction or an
exponent and the names of the values without digits; `whole?` reads integers, also those written
with a fraction of zeros or with zeros in front.
-/

namespace PropertyGraph.Decimal

open Text

def asciiDigit? (c : Char) : Option Nat :=
  if c.isDigit then some (c.toNat - 48) else none

/-- The ASCII digits a text starts with, and what follows them. -/
def splitDigits : List Char → List Nat × List Char
  | [] => ([], [])
  | c :: s =>
    match asciiDigit? c with
    | none => ([], c :: s)
    | some d =>
      let (ds, rest) := splitDigits s
      (d :: ds, rest)

/-- The values of a text that is a run of digits of the given kind, at least one. -/
def digits? (value? : Char → Option Nat) (s : List Char) : Option (List Nat) :=
  if s = [] then none else s.mapM value?

/--
A text without its underscores, provided it neither starts nor ends with one and no two are
adjacent.
-/
def dropUnderscores? (s : List Char) : Option (List Char) :=
  if s.head? = some '_' ∨ s.getLast? = some '_' ∨ (s.zip (s.drop 1)).contains ('_', '_') then none
  else some (s.filter (· != '_'))

/-- A sign, if the text has one: whether it is a minus, and what follows it. -/
def splitSign : List Char → Bool × List Char
  | '-' :: s => (true, s)
  | '+' :: s => (false, s)
  | s => (false, s)

/-- The number a text of digits denotes, with an optional sign. -/
def signed? (value? : Char → Option Nat) (s : List Char) : Option Int :=
  let (negative, body) := splitSign s
  (digits? value? body).map fun ds => if negative then -(ofDigits ds : Int) else ofDigits ds

/-- A number with digits, an optional fraction and an optional exponent, and no sign. -/
def unsigned? (s : List Char) : Option Decimal :=
  let (ones, rest) := splitDigits s
  let (fraction, rest) := match rest with
    | '.' :: r => splitDigits r
    | r => ([], r)
  let d : Decimal := ⟨ofDigits (ones ++ fraction), -(fraction.length : Int)⟩
  if ones = [] ∧ fraction = [] then none
  else
    match rest with
    | [] => some d
    | c :: r =>
      if isLetter 'e' c then
        (signed? asciiDigit? r).map fun e => { d with exponent := d.exponent + e }
      else none

/-- The float with the given sign and size. -/
def withSign (negative : Bool) (x : Float) : Float := if negative then -x else x

/-- The float a text denotes, in digits or by name. -/
def plainReal? (s : List Char) : Option Float :=
  let (negative, body) := splitSign s
  let name := String.ofList (body.map Char.toLower)
  if name = "inf" ∨ name = "infinity" then some (withSign negative infinity)
  else if name = "nan" then some notANumber
  else (unsigned? body).map fun d => withSign negative d.toFloat

/--
The float a text denotes. Spaces around it do not count; failing that, the text may have single
underscores inside, but then no spaces.
-/
def real? (s : List Char) : Option Float :=
  (plainReal? (trimSpaces s)).or ((dropUnderscores? s).bind plainReal?)

/-- A text without its plus sign, unless a minus follows. -/
def dropPlus : List Char → List Char
  | '+' :: '-' :: s => '+' :: '-' :: s
  | '+' :: s => s
  | s => s

/-- Whether an integer without leading zeros can start with a character. -/
def startsInteger (c : Char) : Bool := c == '-' || (c.isDigit && c != '0')

/--
A text from where its number starts: after leading zeros and underscores among them, but the last
of these is kept if nothing or a point follows.
-/
def dropLeadingZeros? : List Char → Option (List Char)
  | [] => none
  | c :: s => if c = '0' then go c s else if startsInteger c then some (c :: s) else none
where
  /-- Goes on after a zero or underscore. -/
  go (last : Char) : List Char → Option (List Char)
    | [] => some [last]
    | c :: s =>
      if c = '0' ∨ c = '_' then go c s
      else if startsInteger c then some (c :: s)
      else if c = '.' then some (last :: c :: s)
      else none

/-- A text without a point and the zeros after it, at least one, if it ends so. -/
def dropZeroFraction (s : List Char) : List Char :=
  match s.span (· != '.') with
  | (ones, '.' :: '0' :: zeros) => if zeros.all (· == '0') then ones else s
  | _ => s

/-- The number a text of digits denotes that has no needless zero in front. -/
def natural? (s : List Char) : Option Nat :=
  match digits? asciiDigit? s with
  | some (0 :: _ :: _) => none
  | ds => ds.map ofDigits

/--
The integer a text denotes. Spaces around it, a plus sign, leading zeros and a fraction of zeros do
not count, and single underscores may stand inside what remains.
-/
def whole? (s : List Char) : Option Int := do
  let s ← dropLeadingZeros? (dropPlus (trimSpaces s))
  match ← dropUnderscores? (dropZeroFraction s) with
  | '-' :: body => (natural? body).map fun n => -(n : Int)
  | body => (natural? body).map Int.ofNat

/--
The integer a command-line argument denotes: a sign and digits of any script with single
underscores between them. Blanks around it do not count.
-/
def argument? (s : List Char) : Option Int := do
  let (negative, body) := splitSign (strip s)
  let ds ← digits? digitValue? (← dropUnderscores? body)
  let n ← (integer ds).toOption
  return if negative then -(n : Int) else n

end PropertyGraph.Decimal
