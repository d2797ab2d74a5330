import PropertyGraph.DateTime.Basic
import PropertyGraph.Decimal.Reading

/-!
# The written form of date-times

A date-time is written as a date, the letter T and a time of day, with six places after the seconds
when there are microseconds, and then its offset if it has one. Universal time is marked by the
letter Z in documents and by an offset of zero elsewhere. The reader is more generous: the time may
follow other separators and lack its seconds, the offset may lack its colon, and a date alone is
its midnight. A number counts seconds from the start of 1970, or milliseconds if it is large. The
reader takes years of four digits, so it also takes the year 0, which no calendar has.
-/

namespace PropertyGraph.DateTime

open Decimal

/-! ## Writing -/

/-- The last digits of a number, padded with zeros to a width. -/
def padded (width n : Nat) : List Char :=
  let ds := Nat.toDigits 10 n
  List.replicate (width - ds.length) '0' ++ ds

/-- An offset as a sign, hours and minutes. -/
def writeOffset (seconds : Int) : List Char :=
  let minutes := seconds.natAbs / 60
  (if seconds < 0 then '-' else '+') :: padded 2 (minutes / 60) ++ ':' :: padded 2 (minutes % 60)

/-- A date-time without its offset. -/
def writeWall (t : DateTime) : List Char :=
  let date := CivilDate.ofDays (t.wall / 86400000000)
  let micros := (t.wall % 86400000000).toNat
  let seconds := micros / 1000000
  padded 4 date.year.toNat ++ '-' :: padded 2 date.month ++ '-' :: padded 2 date.day
    ++ 'T' :: padded 2 (seconds / 3600) ++ ':' :: padded 2 (seconds / 60 % 60)
    ++ ':' :: padded 2 (seconds % 60)
    ++ (if micros % 1000000 = 0 then [] else '.' :: padded 6 (micros % 1000000))

/-- The form in documents, where the letter Z marks universal time. -/
def written (t : DateTime) : String :=
  String.ofList <| t.writeWall ++ match t.offset with
    | none => []
    | some 0 => ['Z']
    | some seconds => writeOffset seconds

/-- The form with a numeric offset throughout. -/
def writtenNumeric (t : DateTime) : String :=
  String.ofList <| t.writeWall ++ match t.offset with
    | none => []
    | some seconds => writeOffset seconds

/-! ## Numbers -/

/-- The largest count of seconds; any count above this size is of milliseconds. -/
def secondsLimit : Nat := 20000000000

/-- The number of microseconds in one unit of a count, which depends on how large the count is. -/
def microsPerUnit (isLarge : Bool) : Nat := if isLarge then 1000 else 1000000

/-- The date-time a number of microseconds from the start of 1970, in a year of four digits. -/
def ofMicros? (micros : Int) : Option DateTime :=
  if (⟨0, 1, 1⟩ : CivilDate).toDays * 86400000000 ≤ micros
      ∧ micros < (⟨10000, 1, 1⟩ : CivilDate).toDays * 86400000000 then
    some (ofInstant micros)
  else none

/-- The date-time of a whole count from the start of 1970. -/
def ofCount? (count : Int) : Option DateTime :=
  ofMicros? (count * microsPerUnit (secondsLimit < count.natAbs))

/-- The whole number below a finite float. -/
def floorOf (x : Float) : Int :=
  let (num, den) := fraction x
  if isSigned x then -(((num + den - 1) / den : Nat) : Int) else ((num / den : Nat) : Int)

/-- The whole number nearest to the size of a finite float; a half goes up. -/
def nearestWhole (x : Float) : Nat :=
  let (num, den) := fraction x
  (2 * num + den) / (2 * den)

/--
The date-time of a count that need not be whole. What it has beyond the whole number below it is
rounded to microseconds by itself.
-/
def ofFloat? (x : Float) : Option DateTime :=
  if !isFinite x then none
  else
    let unit := microsPerUnit (Float.ofNat secondsLimit < x.abs)
    ofMicros? (floorOf x * unit + nearestWhole ((x - x.floor) * Float.ofNat unit))

/-! ## Reading -/

/-- A number of exactly two digits at the front of a text, and what follows it. -/
def readTwo : List Char → Option (Nat × List Char)
  | a :: b :: s => do return ((← asciiDigit? a) * 10 + (← asciiDigit? b), s)
  | _ => none

/-- A character at the front of a text, and what follows it. -/
def dropChar? (p : Char → Bool) : List Char → Option (List Char)
  | c :: s => if p c then some s else none
  | [] => none

/-- The date at the front of a text. -/
def readDate (s : List Char) : Option (CivilDate × List Char) := do
  let (century, s) ← readTwo s
  let (years, s) ← readTwo s
  let s ← dropChar? (· == '-') s
  let (month, s) ← readTwo s
  let s ← dropChar? (· == '-') s
  let (day, s) ← readTwo s
  let date : CivilDate := ⟨(century * 100 + years : Nat), month, day⟩
  if date.isValid then some (date, s) else none

/-- The microseconds of the digits after a point; more than six are cut off. -/
def readMicros (s : List Char) : Option (Nat × List Char) :=
  match splitDigits s with
  | ([], _) => none
  | (ds, rest) => some (ofDigits ((ds ++ List.replicate 6 0).take 6), rest)

/-- The seconds of a time of day in microseconds, if there are any, and what follows. -/
def readSeconds (s : List Char) : Option (Nat × List Char) :=
  match s with
  | ':' :: s => do
    let (seconds, s) ← readTwo s
    if 60 ≤ seconds then none
    else
      match s with
      | c :: r =>
        if c == '.' || c == ',' then
          let (micros, rest) ← readMicros r
          return (seconds * 1000000 + micros, rest)
        else return (seconds * 1000000, c :: r)
      | [] => return (seconds * 1000000, [])
  | s => some (0, s)

/-- The time of day at the front of a text, in microseconds. -/
def readTime (s : List Char) : Option (Nat × List Char) := do
  let (hours, s) ← readTwo s
  let s ← dropChar? (· == ':') s
  let (minutes, s) ← readTwo s
  if 24 ≤ hours ∨ 60 ≤ minutes then none
  else
    let (micros, s) ← readSeconds s
    return ((hours * 60 + minutes) * 60000000 + micros, s)

/-- The offset that ends a text, in seconds; the outer option is for a malformed one. -/
def readOffset (s : List Char) : Option (Option Int) :=
  match s with
  | [] => some none
  | ['Z'] => some (some 0)
  | ['z'] => some (some 0)
  | c :: s => do
    let negative ← if c == '+' then some false else if c == '-' || c == '−' then some true else none
    let (hours, s) ← readTwo s
    let (minutes, s) ← readTwo ((dropChar? (· == ':') s).getD s)
    if s ≠ [] ∨ 24 ≤ hours ∨ 60 ≤ minutes then none
    else
      let seconds : Int := hours * 3600 + minutes * 60
      return some (if negative then -seconds else seconds)

/-- Whether a character may stand between a date and a time. -/
def isSeparator (c : Char) : Bool := c == 'T' || c == 't' || c == ' ' || c == '_'

/-- The date-time of a calendar text. -/
def ofCalendarText? (s : List Char) : Option DateTime := do
  let (date, s) ← readDate s
  let midnight := date.toDays * 86400000000
  if s = [] then return ⟨midnight, none⟩
  else
    let s ← dropChar? isSeparator s
    let (micros, s) ← readTime s
    let offset ← readOffset s
    return ⟨midnight + micros, offset⟩

/-- The date-time of a text that is a number; an exponent needs a point before it. -/
def ofNumberText? (s : List Char) : Option DateTime :=
  let (negative, body) := splitSign s
  match splitDigits body with
  | ([], []) => none
  | (ds, []) => ofCount? (if negative then -(ofDigits ds : Int) else ofDigits ds)
  | (_, '.' :: _) => (unsigned? body).bind fun d => ofFloat? (withSign negative d.toFloat)
  | _ => none

/-- The date-time a text denotes. -/
def ofText? (s : String) : Option DateTime :=
  (ofCalendarText? s.toList).or (ofNumberText? s.toList)

end PropertyGraph.DateTime
