import PropertyGraph.OrderedMap

/-!
# Scalars and properties

A scalar is a value that a property can have: nothing, a truth value, an integer of any size, a
float, or a text. An integer and a float are different scalars even when they denote the same
number. A property map assigns scalars to keys and keeps the order in which the keys came.
-/

namespace PropertyGraph

/-- A property value. -/
inductive Scalar where
  | null
  | bool (b : Bool)
  | int (n : Int)
  | float (x : Float)
  | text (s : String)
deriving DecidableEq, Inhabited

abbrev Properties := OrderedMap String Scalar

end PropertyGraph
