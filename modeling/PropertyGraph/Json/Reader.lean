import PropertyGraph.Decimal.Reading
import PropertyGraph.Document

/-!
# Reading JSON

The reader takes a list of characters apart from the front: each function returns what it read and
what is left. Beside the values of the standard it reads the names of the three floats that have no
digits. A number with neither fraction nor exponent is an integer, any other a float; an integer
with too many digits is no value. A key that occurs twice in a map keeps its first place and its
last value. Texts nested too deeply are refused.
-/

namespace PropertyGraph.Json

open Decimal

/-- What holds other values. -/
inductive Container where
  | list
  | map
deriving DecidableEq

/-- Why a text is not read. -/
inductive Fault where
  | malformed
  | tooDeep (container : Container)
deriving DecidableEq

def maxDepth : Nat := 980

/-- Whether a character may stand between tokens. -/
def isGap (c : Char) : Bool := c == ' ' || c == '\t' || c == '\n' || c == '\r'

/-- A text without the gap at its front. -/
def skipGap (s : List Char) : List Char := s.dropWhile isGap

/-- The value of a hexadecimal digit. -/
def hexValue? (c : Char) : Option Nat :=
  if c.isDigit then some (c.toNat - 48)
  else if 'a' ≤ c ∧ c ≤ 'f' then some (c.toNat - 87)
  else if 'A' ≤ c ∧ c ≤ 'F' then some (c.toNat - 55)
  else none

/-- The code unit of four hexadecimal digits. -/
def unit? (a b c d : Char) : Option Nat := do
  return ((← hexValue? a) * 16 + (← hexValue? b)) * 256 + (← hexValue? c) * 16 + (← hexValue? d)

/-- The character a one-letter escape stands for. -/
def shortEscape? (c : Char) : Option Char :=
  match c with
  | '"' => some '"'
  | '\\' => some '\\'
  | '/' => some '/'
  | 'b' => some '\x08'
  | 'f' => some '\x0c'
  | 'n' => some '\n'
  | 'r' => some '\r'
  | 't' => some '\t'
  | _ => none

/-- The code units of a string whose opening quote has been read, and what follows it. -/
def readUnits : List Char → Option (List Nat × List Char)
  | [] => none
  | '"' :: s => some ([], s)
  | '\\' :: 'u' :: a :: b :: c :: d :: s => do
    let n ← unit? a b c d
    let (units, rest) ← readUnits s
    return (n :: units, rest)
  | '\\' :: e :: s => do
    let c ← shortEscape? e
    let (units, rest) ← readUnits s
    return (c.toNat :: units, rest)
  | c :: s => do
    if c.toNat < 32 then none
    else
      let (units, rest) ← readUnits s
      return (c.toNat :: units, rest)

/-- Whether a code unit is the first of a pair. -/
def isHigh (n : Nat) : Bool := 0xD800 ≤ n && n < 0xDC00

/-- Whether a code unit is the second of a pair. -/
def isLow (n : Nat) : Bool := 0xDC00 ≤ n && n < 0xE000

/-- The character of a code unit; one half of a pair alone stands for no character. -/
def unitChar (n : Nat) : Char := if isHigh n || isLow n then '\uFFFD' else Char.ofNat n

/-- The characters of a list of code units, with pairs joined. -/
def joinPairs : List Nat → List Char
  | [] => []
  | [n] => [unitChar n]
  | n :: m :: units =>
    if isHigh n && isLow m then
      Char.ofNat (0x10000 + (n - 0xD800) * 0x400 + (m - 0xDC00)) :: joinPairs units
    else unitChar n :: joinPairs (m :: units)

/-- A string whose opening quote has been read, and what follows it. -/
def readText (s : List Char) : Option (String × List Char) :=
  (readUnits s).map fun (units, rest) => (String.ofList (joinPairs units), rest)

/-- What follows a word at the front of a text. -/
def dropWord? : List Char → List Char → Option (List Char)
  | [], s => some s
  | c :: w, d :: s => if c = d then dropWord? w s else none
  | _ :: _, [] => none

/-- The words that stand for a value. -/
def words : List (String × Scalar) :=
  [("null", .null), ("true", .bool true), ("false", .bool false), ("NaN", .float notANumber),
   ("Infinity", .float infinity), ("-Infinity", .float (-infinity))]

/-- The word at the front of a text. -/
def readWord (s : List Char) : Option (Scalar × List Char) :=
  words.findSome? fun (w, v) => (dropWord? w.toList s).map fun rest => (v, rest)

/-- The fraction at the front of a text: its digits, if it has a point followed by a digit. -/
def readFraction (s : List Char) : Option (List Nat × List Char) :=
  match s with
  | '.' :: r =>
    match splitDigits r with
    | ([], _) => none
    | (ds, rest) => some (ds, rest)
  | _ => none

/-- The exponent at the front of a text. -/
def readExponent (s : List Char) : Option (Int × List Char) :=
  match s with
  | c :: r =>
    if c == 'e' || c == 'E' then
      let (negative, body) := splitSign r
      match splitDigits body with
      | ([], _) => none
      | (ds, rest) => some (if negative then -(ofDigits ds : Int) else ofDigits ds, rest)
    else none
  | [] => none

/-- The digits before the point: a lone zero, or digits that do not start with one. -/
def readOnes (s : List Char) : Option (List Nat × List Char) :=
  match splitDigits s with
  | ([], _) => none
  | (0 :: _, _) => some ([0], s.drop 1)
  | (ds, rest) => some (ds, rest)

/-- The number at the front of a text. -/
def readNumber (s : List Char) : Option (Scalar × List Char) := do
  let (negative, body) := match s with
    | '-' :: r => (true, r)
    | r => (false, r)
  let (ones, rest) ← readOnes body
  let fraction := readFraction rest
  let rest := (fraction.map Prod.snd).getD rest
  let exponent := readExponent rest
  let rest := (exponent.map Prod.snd).getD rest
  if fraction.isNone && exponent.isNone then
    let n ← (integer ones).toOption
    return (.int (if negative then -(n : Int) else n), rest)
  else
    let places := (fraction.map Prod.fst).getD []
    let d : Decimal := ⟨ofDigits (ones ++ places),
      (exponent.map Prod.fst).getD 0 - (places.length : Int)⟩
    return (.float (withSign negative d.toFloat), rest)

/-- A result, or the fault of a malformed text. -/
def orMalformed {α : Type} : Option α → Except Fault α
  | some a => .ok a
  | none => .error .malformed

mutual

/--
The value at the front of a text, and what follows it. Of two nested calls at least one reads a
character, so fuel beyond twice the length of the text is never used up.
-/
def readValue : Nat → Nat → List Char → Except Fault (Document × List Char)
  | 0, _, _ => .error .malformed
  | fuel + 1, levels, s =>
    match s with
    | '"' :: r => do
      let (t, rest) ← orMalformed (readText r)
      return (.text t, rest)
    | '[' :: r =>
      if levels = 0 then .error (.tooDeep .list)
      else
        match skipGap r with
        | ']' :: rest => .ok (.list [], rest)
        | body => do
          let (items, rest) ← readItems fuel (levels - 1) body
          return (.list items, rest)
    | '\x7b' :: r =>
      if levels = 0 then .error (.tooDeep .map)
      else
        match skipGap r with
        | '\x7d' :: rest => .ok (.map [], rest)
        | body => do
          let (entries, rest) ← readEntries fuel (levels - 1) body
          return (.map (OrderedMap.ofList entries).entries, rest)
    | _ => do
      let (v, rest) ← orMalformed ((readWord s).or (readNumber s))
      return (.scalar v, rest)

/-- The items of a list up to its closing bracket. -/
def readItems : Nat → Nat → List Char → Except Fault (List Document × List Char)
  | 0, _, _ => .error .malformed
  | fuel + 1, levels, s => do
    let (item, rest) ← readValue fuel levels s
    match skipGap rest with
    | ',' :: r =>
      let (items, rest) ← readItems fuel levels (skipGap r)
      return (item :: items, rest)
    | ']' :: rest => return ([item], rest)
    | _ => .error .malformed

/-- The entries of a map up to its closing brace. -/
def readEntries : Nat → Nat → List Char → Except Fault (List (String × Document) × List Char)
  | 0, _, _ => .error .malformed
  | fuel + 1, levels, s => do
    match s with
    | '"' :: r =>
      let (key, rest) ← orMalformed (readText r)
      match skipGap rest with
      | ':' :: r =>
        let (value, rest) ← readValue fuel levels (skipGap r)
        match skipGap rest with
        | ',' :: r =>
          let (entries, rest) ← readEntries fuel levels (skipGap r)
          return ((key, value) :: entries, rest)
        | '\x7d' :: rest => return ([(key, value)], rest)
        | _ => .error .malformed
      | _ => .error .malformed
    | _ => .error .malformed

end

/-- The document a text denotes. -/
def read (text : String) : Except Fault Document := do
  let s := text.toList
  let (d, rest) ← readValue (2 * s.length + 1) maxDepth (skipGap s)
  if skipGap rest = [] then return d else .error .malformed

end PropertyGraph.Json
