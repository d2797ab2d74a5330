/-!
# Searching for a boundary

A test on places that holds up to some place and not from there on has a boundary, which can be
found without trying every place. `bisect` halves the range that is left. `gallop` starts at a place
near which the boundary is expected, moves away from it in strides of growing length until the
boundary is passed, and then halves what lies between the last two strides. On a test without a
boundary both still name a place, and which one it is depends on the places they try.
-/

namespace PropertyGraph.Sorting

/-- The boundary of a test between two places. -/
def bisect (p : Nat → Bool) (lo hi : Nat) : Nat :=
  if lo < hi then
    let mid := lo + (hi - lo) / 2
    if p mid then bisect p (mid + 1) hi else bisect p lo mid
  else lo
termination_by hi - lo
decreasing_by all_goals omega

/--
Strides over a test, each twice as long as the one before it and one more: the last stride on which
the test holds and the first on which it does not, or the limit.
-/
def stride (p : Nat → Bool) (limit near far : Nat) : Nat × Nat :=
  if far < limit ∧ p far then stride p limit far (2 * far + 1) else (near, min far limit)
termination_by limit - far
decreasing_by omega

/-- The boundary of a test on the first `n` places, sought on both sides of a place among them. -/
def gallop (p : Nat → Bool) (n hint : Nat) : Nat :=
  if p hint then
    let (near, far) := stride (fun i => p (hint + i)) (n - hint) 0 1
    bisect p (hint + near + 1) (hint + far)
  else
    let (near, far) := stride (fun i => !p (hint - i)) (hint + 1) 0 1
    bisect p (hint + 1 - far) (hint - near)

/-- The end of the first items of a list that pass a test, sought from one of its places. -/
def boundary {α : Type} (p : α → Bool) (items : List α) (hint : Nat) : Nat :=
  gallop (fun i => items[i]?.any p) items.length hint

end PropertyGraph.Sorting
