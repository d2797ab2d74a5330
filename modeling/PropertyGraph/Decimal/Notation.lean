import PropertyGraph.Decimal.Shortest

/-!
# The written form of floats

A float is written with its shortest digits. A number whose point falls after the fourth place to
the left of the digits and not beyond the sixteenth to the right is written out, with `.0` after a
whole number; any other has one digit before the point and an exponent of at least two digits with
its sign. The two infinities and the value that is not a number have names.
-/

namespace PropertyGraph.Decimal

def digitChars (d : Decimal) : List Char := Nat.toDigits 10 d.digits

/-- A decimal written out in full, with at least one digit on each side of the point. -/
def positional (d : Decimal) : List Char :=
  let ds := d.digitChars
  let p := d.point
  if p ≤ 0 then '0' :: '.' :: List.replicate (-p).toNat '0' ++ ds
  else if ds.length ≤ p.toNat then ds ++ List.replicate (p.toNat - ds.length) '0' ++ ['.', '0']
  else ds.take p.toNat ++ '.' :: ds.drop p.toNat

/-- A decimal with one digit before the point, and an exponent. -/
def scientific (d : Decimal) : List Char :=
  let e := d.point - 1
  let size := Nat.toDigits 10 e.natAbs
  let mantissa := match d.digitChars with
    | [] => []
    | [c] => [c]
    | c :: rest => c :: '.' :: rest
  mantissa ++ ['e', if e < 0 then '-' else '+']
    ++ (if size.length < 2 then '0' :: size else size)

/-- A decimal in the form its size calls for. -/
def written (d : Decimal) : List Char :=
  if d.digits = 0 then ['0', '.', '0']
  else if -4 < d.point ∧ d.point ≤ 16 then d.positional
  else d.scientific

/-- The names of the floats that have no digits. -/
structure Names where
  notANumber : String
  infinity : String
deriving DecidableEq

def messageNames : Names := ⟨"nan", "inf"⟩

def documentNames : Names := ⟨"NaN", "Infinity"⟩

/-- The written form of a float. -/
def render (names : Names) (x : Float) : String :=
  if x.isNaN then names.notANumber
  else
    let size := if x.isInf then names.infinity else String.ofList (shortest x).written
    if isSigned x then "-" ++ size else size

end PropertyGraph.Decimal
