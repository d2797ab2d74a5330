import PropertyGraph.Command.Basic
import PropertyGraph.Snapshot

/-!
# Errors

A graph error is the cause for which an operation was refused. What is reported of it is derived: a
kind, a message, and details for a program that wants to act on it. An error report can also be put
together from its parts; each kind has its own conventions for the details.
-/

namespace PropertyGraph

/-! ## Reports -/

/-- The kinds of reported errors. -/
inductive ErrorKind where
  | general
  | parse
  | reference
  | constraint
  | validation
  | collision
  | execution
  | storage
deriving DecidableEq

def ErrorKind.name : ErrorKind → String
  | general => "WalGraphError"
  | parse => "ParseError"
  | reference => "GraphReferenceError"
  | constraint => "ConstraintError"
  | validation => "GraphValidationError"
  | collision => "IDCollisionError"
  | execution => "ExecutionError"
  | storage => "SnapshotStorageError"

structure ErrorReport where
  kind : ErrorKind
  message : String
  details : List (String × Document)

namespace ErrorReport

/-- A report whose details are given as they are. -/
def plain (kind : ErrorKind) (message : String) (details : List (String × Document)) :
    ErrorReport :=
  ⟨kind, message, details⟩

/-- A report about a text that does not fit the grammar. -/
def parse (message : String) (text : Option String) : ErrorReport :=
  ⟨.parse, message, (text.map fun t => [("text", .text t)]).getD []⟩

/-- A report about an id that nothing goes by. -/
def reference (message : String) (id : Option String) : ErrorReport :=
  ⟨.reference, message, (id.map fun i => [("id", .text i)]).getD []⟩

/-- A report about a batch that stopped, with the name of the error that stopped it. -/
def execution (message batch : String) (cause : Option String) : ErrorReport :=
  ⟨.execution, message, [("original_query", .text batch), ("cause", .ofText? cause)]⟩

/-- A report about a blob; the details may override the operation. -/
def storage (message : String) (operation : Option String) (details : List (String × Document)) :
    ErrorReport :=
  ⟨.storage, message,
    (OrderedMap.ofList (("operation", Document.ofText? operation) :: details)).entries⟩

def toDocument (r : ErrorReport) : Document :=
  .map [("error", .text r.message), ("error_type", .text r.kind.name), ("details", .map r.details)]

end ErrorReport

/-! ## Causes -/

/-- Why an operation on a graph is refused. -/
inductive GraphError where
  | command (fault : Command.Fault)
  | batchTooLong (size : Nat) (limit : Int)
  | noNode (id : String)
  | noRelationship (id : String)
  | noSource (id : String)
  | noTarget (id : String)
  | danglingEnd (relationship node : String)
  | idInUse (id : String)
  | selfLoop (node : String)
  | stillConnected (node : String) (relationships : List String)
  | blankNodeType
  | blankRelationshipType
  | invalidId (shown : String)
  | noFreeId
  | invalidNode (violations : List Violation)
  | invalidRelationship (violations : List Violation)
deriving DecidableEq

def invalidIdMessage (shown : String) : String := "Invalid ID: " ++ shown

/-- How many ids are drawn before a free one is given up on. -/
def idAttempts : Nat := 8

namespace GraphError

def message : GraphError → String
  | command fault => fault.message
  | batchTooLong size limit =>
    "Batch has " ++ toString size ++ " commands, limit is " ++ toString limit
  | noNode id => "Node " ++ id ++ " not found"
  | noRelationship id => "Relationship " ++ id ++ " not found"
  | noSource id => "Source node " ++ id ++ " not found"
  | noTarget id => "Target node " ++ id ++ " not found"
  | danglingEnd relationship node =>
    "Relationship " ++ relationship ++ " references missing node " ++ node
  | idInUse id => "ID " ++ id ++ " is already in use"
  | selfLoop node => "Self-loop on node " ++ node ++ " is not allowed"
  | stillConnected node relationships =>
    "Node " ++ node ++ " still has " ++ toString relationships.length ++ " incident relationships"
  | blankNodeType => "Node type must be a non-empty string"
  | blankRelationshipType => "Relationship type must be a non-empty string"
  | invalidId shown => invalidIdMessage shown
  | noFreeId => "Could not generate an unused ID after " ++ toString idAttempts ++ " attempts"
  | invalidNode _ => "Invalid node data"
  | invalidRelationship _ => "Invalid relationship data"

def report (e : GraphError) : ErrorReport :=
  match e with
  | command fault => .parse e.message (some fault.text)
  | batchTooLong .. => .parse e.message none
  | noNode id | noRelationship id | noSource id | noTarget id | danglingEnd _ id =>
    .reference e.message (some id)
  | idInUse id | selfLoop id => .plain .constraint e.message [("id", .text id)]
  | stillConnected node relationships =>
    .plain .constraint e.message
      [("id", .text node), ("relationship_ids", .list (relationships.map .text))]
  | blankNodeType | blankRelationshipType | invalidId _ | invalidNode _ | invalidRelationship _ =>
    .plain .validation e.message []
  | noFreeId => .plain .collision e.message []

/-- The violations behind an error, and what they were found in. -/
def violations? : GraphError → Option (Model × List Violation)
  | invalidNode vs => some (.node, vs)
  | invalidRelationship vs => some (.relationship, vs)
  | _ => none

end GraphError

end PropertyGraph
