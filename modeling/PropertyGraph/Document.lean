import PropertyGraph.Decimal.Notation
import PropertyGraph.OrderedMap
import PropertyGraph.Scalar
import PropertyGraph.Text.Quoted

/-!
# Documents

A document is nested data: a scalar, a list of documents, or a map from texts to documents whose
entries stand in order. Documents are what models are read from and what results are written as.
`display` is the form in which a message shows an arbitrary value.
-/

namespace PropertyGraph

/-- A scalar that can be stored: a float that is not finite gives way to nothing. -/
def Scalar.toStored : Scalar → Scalar
  | float x => if Decimal.isFinite x then float x else null
  | v => v

/-- Nested data. -/
inductive Document where
  | scalar (value : Scalar)
  | list (items : List Document)
  | map (entries : List (String × Document))
deriving Inhabited

namespace Document

abbrev null : Document := .scalar .null

abbrev text (s : String) : Document := .scalar (.text s)

abbrev int (n : Int) : Document := .scalar (.int n)

abbrev float (x : Float) : Document := .scalar (.float x)

abbrev bool (b : Bool) : Document := .scalar (.bool b)

/-- The document of a text that may be absent. -/
def ofText? (s : Option String) : Document := s.elim null text

def ofProperties (m : Properties) : Document :=
  .map (m.entries.map fun e => (e.1, .scalar e.2))

/-- The scalar a document is, if it is one. -/
def scalar? : Document → Option Scalar
  | scalar v => some v
  | _ => none

/-- The text a document is, if it is one. -/
def text? : Document → Option String
  | scalar (.text s) => some s
  | _ => none

/-- The value at a key of a map. -/
def get? (d : Document) (key : String) : Option Document :=
  match d with
  | map entries => entries.lookup key
  | _ => none

mutual

/-- A document that can be stored: a float that is not finite gives way to nothing. -/
def toStored : Document → Document
  | scalar v => .scalar v.toStored
  | list items => .list (toStoredItems items)
  | map entries => .map (toStoredEntries entries)

def toStoredItems : List Document → List Document
  | [] => []
  | d :: ds => d.toStored :: toStoredItems ds

def toStoredEntries : List (String × Document) → List (String × Document)
  | [] => []
  | (k, d) :: es => (k, d.toStored) :: toStoredEntries es

end

end Document

/-- The form in which a message shows a scalar. -/
def Scalar.display : Scalar → String
  | null => "None"
  | bool true => "True"
  | bool false => "False"
  | int n => toString n
  | float x => Decimal.render Decimal.messageNames x
  | text s => Text.quoted s

namespace Document

mutual

/-- The form in which a message shows a document. -/
def display : Document → String
  | scalar v => v.display
  | list items => "[" ++ ", ".intercalate (displayItems items) ++ "]"
  | map entries => "\x7b" ++ ", ".intercalate (displayEntries entries) ++ "\x7d"

def displayItems : List Document → List String
  | [] => []
  | d :: ds => d.display :: displayItems ds

def displayEntries : List (String × Document) → List String
  | [] => []
  | (k, d) :: es => (Text.quoted k ++ ": " ++ d.display) :: displayEntries es

end

end Document

end PropertyGraph
