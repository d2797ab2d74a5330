import PropertyGraph.Decimal.Notation

/-!
# Violations

Data that is to become a node, a relationship, a snapshot or a set of settings is checked as a
whole: each field that breaks a rule contributes a violation, in the order of the fields, and the
data is accepted only if there is none. `Checked` is the result of such a check; combining the
checks of two fields keeps the violations of both.
-/

namespace PropertyGraph

/-- One step on the way from a document to a place inside it. -/
inductive Step where
  | field (name : String)
  | index (i : Nat)
deriving DecidableEq

/-- The rules beyond the form of a value. -/
inductive Rejection where
  | blankNodeId
  | blankId
  | blankNodeType
  | blankRelationshipType
  | emptyKey
  | nestedValue (key kind : String)
  | weight (w : Float)
  | logLevel (name : String)
  | damping (d : Float)
  | count (n : Int)
  | tolerance (t : Float)
deriving DecidableEq

/-- What is wrong at a place. -/
inductive Problem where
  | missing
  | notText
  | notMap
  | notList
  | notFloat
  | malformedFloat
  | notInt
  | malformedInt
  | fractionalInt
  | outsizedInt
  | infiniteInt
  | notBool
  | malformedBool
  | notDateTime
  | outOfCalendar
  | malformedDateTime
  | notModel
  | rejected (reason : Rejection)
deriving DecidableEq

/-- A problem and the place where it was found. -/
structure Violation where
  place : List Step
  problem : Problem
deriving DecidableEq

/-- What a message says about a rejected value. -/
def Rejection.message : Rejection → String
  | blankNodeId => "Node ID cannot be empty"
  | blankId => "ID cannot be empty"
  | blankNodeType => "Node type must be a non-empty string"
  | blankRelationshipType => "Relationship type must be a non-empty string"
  | emptyKey => "Property keys must be non-empty strings, got ''"
  | nestedValue key kind =>
    "Property '" ++ key ++ "' must be a string, number, boolean or null, got " ++ kind
  | weight w => "Weight must be positive, got " ++ Decimal.render Decimal.messageNames w
  | logLevel name => "Invalid log level: " ++ name
  | damping d =>
    "Damping factor must be between 0 and 1, got " ++ Decimal.render Decimal.messageNames d
  | count n => "Value must be at least 1, got " ++ toString n
  | tolerance t => "Tolerance must be positive, got " ++ Decimal.render Decimal.messageNames t

/-- The name of a problem. -/
def Problem.name : Problem → String
  | missing => "missing"
  | notText => "string_type"
  | notMap => "dict_type"
  | notList => "list_type"
  | notFloat => "float_type"
  | malformedFloat => "float_parsing"
  | notInt => "int_type"
  | malformedInt => "int_parsing"
  | fractionalInt => "int_from_float"
  | outsizedInt => "int_parsing_size"
  | infiniteInt => "finite_number"
  | notBool => "bool_type"
  | malformedBool => "bool_parsing"
  | notDateTime => "datetime_type"
  | outOfCalendar => "datetime_parsing"
  | malformedDateTime => "datetime_from_date_parsing"
  | notModel => "model_type"
  | rejected _ => "value_error"

/-- The result of a check: a value, or the violations that were found. -/
inductive Checked (α : Type) where
  | accepted (a : α)
  | refused (violations : List Violation)

namespace Checked

variable {α β : Type}

/-- Refuses a value for one problem at the place of the check itself. -/
def fail (p : Problem) : Checked α := refused [⟨[], p⟩]

/-- Changes an accepted value. -/
def map (f : α → β) : Checked α → Checked β
  | accepted a => accepted (f a)
  | refused vs => refused vs

/-- Applies an accepted function to an accepted value; the violations of both sides are kept. -/
def ap : Checked (α → β) → Checked α → Checked β
  | accepted f, accepted a => accepted (f a)
  | accepted _, refused vs => refused vs
  | refused vs, accepted _ => refused vs
  | refused vs, refused ws => refused (vs ++ ws)

/-- Goes on with a further check of the value, if the first accepts it. -/
def andThen (c : Checked α) (f : α → Checked β) : Checked β :=
  match c with
  | accepted a => f a
  | refused vs => refused vs

/-- Moves the violations of a check one step into a document. -/
def within (step : Step) : Checked α → Checked α
  | accepted a => accepted a
  | refused vs => refused (vs.map fun v => { v with place := step :: v.place })

instance : Functor Checked where
  map := map

instance : Applicative Checked where
  pure := accepted
  seq f a := ap f (a ())

/-- Checks every item of a list; a violation says at which index it was found. -/
def list (f : α → Checked β) (items : List α) : Checked (List β) :=
  go 0 items
where
  /-- Checks the items from an index on. -/
  go (i : Nat) : List α → Checked (List β)
    | [] => accepted []
    | a :: as => List.cons <$> (f a).within (.index i) <*> go (i + 1) as

/-- The value or the violations, as alternatives. -/
def toExcept : Checked α → Except (List Violation) α
  | accepted a => .ok a
  | refused vs => .error vs

end Checked

end PropertyGraph
