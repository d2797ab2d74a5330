/-!
# Line breaks

A line of a text file may end with a line feed, a carriage return, or the two together. `unify`
writes every end of a line as a single line feed, which is the only line break that readers know.
-/

namespace PropertyGraph.Text.LineBreak

/-- A text with every line break written as a line feed. -/
def unify : List Char → List Char
  | [] => []
  | '\r' :: '\n' :: s => '\n' :: unify s
  | '\r' :: s => '\n' :: unify s
  | c :: s => c :: unify s

/-- A string with every line break written as a line feed. -/
def unified (s : String) : String := String.ofList (unify s.toList)

end PropertyGraph.Text.LineBreak
