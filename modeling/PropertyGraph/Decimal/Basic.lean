/-!
# Decimal numbers

A decimal is a count of digits times a power of ten. It has a nearest binary float, and every finite
float has an exact fraction; the shortest decimal of a float is found between the two.
-/

namespace PropertyGraph

/-- The number `digits · 10 ^ exponent`. -/
structure Decimal where
  digits : Nat
  exponent : Int
deriving DecidableEq, Repr

namespace Decimal

def infinity : Float := Float.ofBits 0x7FF0000000000000

def notANumber : Float := Float.ofBits 0x7FF8000000000000

/-- The number of decimal digits of a natural number; zero has one. -/
def digitCount (n : Nat) : Nat := (Nat.toDigits 10 n).length

/-- The place of the decimal point, counted from the left of the digits. -/
def point (d : Decimal) : Int := digitCount d.digits + d.exponent

/--
The float nearest to a decimal. A point beyond 310 or before -330 is outside the range of floats by
a wide margin, so the power of ten is never computed there.
-/
def toFloat (d : Decimal) : Float :=
  if d.digits = 0 ∨ d.point < -330 then 0
  else if 310 < d.point then infinity
  else if 0 ≤ d.exponent then Float.ofScientific d.digits false d.exponent.toNat
  else Float.ofScientific d.digits true (-d.exponent).toNat

/-- The number that a list of digits denotes, most significant first. -/
def ofDigits (ds : List Nat) : Nat := ds.foldl (fun n d => 10 * n + d) 0

/-- The most digits that an integer is read or written with. -/
def digitLimit : Nat := 4300

/-- What is said about integers that have too many digits. -/
def limitMessage : String :=
  "Exceeds the limit (" ++ toString digitLimit ++ " digits) for integer string conversion"

/-- A numeral with more digits than an integer is read with. -/
structure LongNumeral where
  digits : Nat
deriving DecidableEq

def LongNumeral.message (n : LongNumeral) : String :=
  limitMessage ++ ": value has " ++ toString n.digits ++ " digits"

/-- The integer of a numeral, given by its digits. -/
def integer (ds : List Nat) : Except LongNumeral Nat :=
  if digitLimit < ds.length then .error ⟨ds.length⟩ else .ok (ofDigits ds)

theorem integer_of_le {ds : List Nat} (h : ds.length ≤ digitLimit) :
    integer ds = .ok (ofDigits ds) :=
  if_neg (Nat.not_lt.mpr h)

theorem integer_of_lt {ds : List Nat} (h : digitLimit < ds.length) :
    integer ds = .error ⟨ds.length⟩ :=
  if_pos h

def isFinite (x : Float) : Bool := !(x.isNaN || x.isInf)

def isSigned (x : Float) : Bool := x.toBits.toNat / Nat.pow 2 63 == 1

/-- The size of a finite float as `m · 2 ^ q`. -/
def binary (x : Float) : Nat × Int :=
  let bits : Nat := x.toBits.toNat
  let field : Nat := bits / Nat.pow 2 52 % Nat.pow 2 11
  let fraction : Nat := bits % Nat.pow 2 52
  if field = 0 then (fraction, -1074) else (fraction + Nat.pow 2 52, (field : Int) - 1075)

/-- The size of a finite float as a fraction of natural numbers. -/
def fraction (x : Float) : Nat × Nat :=
  let (m, q) := binary x
  if 0 ≤ q then (m * Nat.pow 2 q.toNat, 1) else (m, Nat.pow 2 (-q).toNat)

end Decimal

end PropertyGraph
