import PropertyGraph.Decimal.Basic

/-!
# The shortest decimal that reads back

Of all decimals whose nearest float is a given one, the shortest has the fewest digits, and of those
it is the nearest. For each number of digits the float lies between two neighbours on the grid of
decimals with that many digits; if any decimal of the grid reads back then so does one of these two,
so they are the only candidates. Seventeen digits always suffice.
-/

namespace PropertyGraph.Decimal

/-- The place of the point of a positive fraction: the least `k` with `num / den < 10 ^ k`. -/
def magnitude (num den : Nat) : Int :=
  if den ≤ num then digitCount (num / den) else 1 - (digitCount ((den - 1) / num) : Int)

/--
The candidates for a fraction on the grid of multiples of `10 ^ exponent`: the neighbour below and
the neighbour above, the nearer first, or the fraction alone if it lies on the grid.
-/
def neighbours (num den : Nat) (exponent : Int) : List Decimal :=
  let n := if 0 ≤ exponent then num else num * Nat.pow 10 (-exponent).toNat
  let d := if 0 ≤ exponent then den * Nat.pow 10 exponent.toNat else den
  let below : Decimal := ⟨n / d, exponent⟩
  let above : Decimal := ⟨n / d + 1, exponent⟩
  let rest := n % d
  if rest = 0 then [below]
  else if 2 * rest < d ∨ (2 * rest = d ∧ n / d % 2 = 0) then [below, above]
  else [above, below]

/-- The first decimal with the given counts of digits that reads back as the float. -/
def firstReadingBack (x : Float) (num den : Nat) (counts : List Nat) : Option Decimal :=
  let k := magnitude num den
  counts.findSome? fun (count : Nat) =>
    (neighbours num den (k - count)).find? fun d => d.toFloat == x

/-- Moves the zeros at the end of the digits into the exponent. -/
def dropZeros (d : Decimal) : Decimal :=
  if d.digits ≠ 0 ∧ d.digits % 10 = 0 then dropZeros ⟨d.digits / 10, d.exponent + 1⟩ else d
termination_by d.digits
decreasing_by all_goals omega

/-- The shortest decimal whose nearest float is the size of a finite float. -/
def shortest (x : Float) : Decimal :=
  let (num, den) := fraction x
  if num = 0 then ⟨0, 0⟩
  else
    match firstReadingBack x.abs num den (List.range' 1 17) with
    | some d => dropZeros d
    | none => ⟨0, 0⟩

end PropertyGraph.Decimal
