import PropertyGraph.Decimal.Basic
import PropertyGraph.Scalar

/-!
# Commands

A command is a line of text and the action it asks for: to create a node, to select nodes or
relationships, or to clear the graph. A line that asks for none of these is an unknown command.
-/

namespace PropertyGraph

/--
Why something stops: at an error of its own, which is reported, or at a numeral with too many
digits, which nothing here expects. That is passed on as it is, and nothing is reported.
-/
inductive Halt (ε : Type) where
  | reported (error : ε)
  | longNumeral (numeral : Decimal.LongNumeral)
deriving DecidableEq

/-- The same stop, with the error taken for another. -/
def Halt.map {ε δ : Type} (f : ε → δ) : Halt ε → Halt δ
  | reported error => reported (f error)
  | longNumeral numeral => longNumeral numeral

/-- What a selection of relationships names; only the type decides what is selected. -/
structure RelationshipPattern where
  type : Option String
  name : String
  source : String
  target : String
  returns : String
deriving DecidableEq

/-- What a command asks for. -/
inductive Action where
  | create (name type : String) (properties : Properties)
  | selectNodes (name : String) (type : Option String) (returns : String)
  | selectAllNodes
  | selectRelationships (pattern : RelationshipPattern)
  | clear
  | unknown
deriving DecidableEq

/-- The kinds of command that an outcome tells apart. -/
inductive CommandKind where
  | create
  | select
  | clear
  | unknown
deriving DecidableEq

def CommandKind.name : CommandKind → String
  | create => "CREATE"
  | select => "MATCH"
  | clear => "CLEAR"
  | unknown => "UNKNOWN"

/-- A line of text and the action it asks for. -/
structure Command where
  text : String
  action : Action
deriving DecidableEq

namespace Action

def kind : Action → CommandKind
  | create .. => .create
  | selectNodes .. | selectAllNodes | selectRelationships .. => .select
  | clear => .clear
  | unknown => .unknown

def returnsAll : String := "all"

/-- The pattern of a selection, written out. -/
def pattern : Action → String
  | selectNodes name type _ =>
    "(" ++ name ++ (type.elim "" fun t => ":" ++ t) ++ ")"
  | selectAllNodes => "()"
  | selectRelationships p => "()-[" ++ p.type.getD "" ++ "]-()"
  | _ => ""

end Action

namespace Command

def defaultName : String := "n"

def defaultReturn : String := "relationships"

/-- Why a text is not a command. -/
inductive Fault where
  | empty (line : String)
  | malformedCreate (line : String)
  | unclosedQuote (quote : Char) (content : String)
deriving DecidableEq

namespace Fault

def message : Fault → String
  | empty _ => "Cannot parse an empty command"
  | malformedCreate line => "Invalid CREATE syntax: " ++ line
  | unclosedQuote quote _ => "Unbalanced " ++ quote.toString ++ " quote in property literal"

/-- The text in which a fault was found. -/
def text : Fault → String
  | empty line | malformedCreate line => line
  | unclosedQuote _ content => content

end Fault

end Command

end PropertyGraph
