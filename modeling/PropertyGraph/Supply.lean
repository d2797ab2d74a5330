import PropertyGraph.DateTime.Basic
import PropertyGraph.Identifier

/-!
# Tokens and clock readings

What an operation needs from outside the graph is a token for an id and a reading of the clock.
Both are handed to it as a supply, and it returns what is left of the supply, so that an operation
is a function of its arguments.
-/

namespace PropertyGraph

/-- A clock as the sequence of its readings, of which a number has been taken. -/
structure Clock where
  readings : Nat → Int
  taken : Nat

namespace Clock

/-- The next reading, and the clock after it. -/
def read (c : Clock) : Int × Clock := (c.readings c.taken, { c with taken := c.taken + 1 })

def still (instant : Int) : Clock := ⟨fun _ => instant, 0⟩

end Clock

/-- The tokens and the clock that operations draw on. -/
structure Supply where
  tokens : TokenSource
  clock : Clock

end PropertyGraph
