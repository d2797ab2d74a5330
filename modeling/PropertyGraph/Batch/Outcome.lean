import PropertyGraph.Snapshot
import PropertyGraph.Command.Basic

/-!
# Outcomes of commands

An outcome says what one command did: the node it created, the elements it selected, that it cleared
the graph, or that it was not understood. Only the last kind is no success.
-/

namespace PropertyGraph

/-- What a command did. -/
inductive Payload where
  | created (id name type : String) (properties : Properties)
  | nodes (pattern : String) (found : List Node) (returns : String)
  | relationships (pattern : String) (found : List Relationship) (returns : String)
  | cleared
  | unknown

/-- A command and what it did. -/
structure Outcome where
  command : Command
  payload : Payload

namespace Payload

def clearedMessage : String := "Graph cleared successfully"

def unknownMessage (text : String) : String := "Unknown command: " ++ text

/-- A payload as a document; the line of the command is shown if it was not understood. -/
def toDocument (line : String) : Payload → Document
  | created id name type properties =>
    .map [("nodeId", .text id), ("type", .text type), ("properties", .ofProperties properties),
      ("variable", .text name)]
  | nodes pattern found returns =>
    .map [("pattern", .text pattern), ("matchedNodes", .list (found.map Node.summary)),
      ("count", .int found.length), ("returnVariable", .text returns)]
  | relationships pattern found returns =>
    .map [("pattern", .text pattern),
      ("matchedRelationships", .list (found.map Relationship.summary)),
      ("count", .int found.length), ("returnVariable", .text returns)]
  | cleared => .text clearedMessage
  | unknown => .text (unknownMessage line)

end Payload

namespace Outcome

/-- Whether the command was understood. -/
def success (o : Outcome) : Bool :=
  match o.payload with
  | .unknown => false
  | _ => true

/-- An outcome as a document, with its result given. -/
def document (o : Outcome) (result : Document) : Document :=
  .map [("command", .text o.command.text), ("type", .text o.command.action.kind.name),
    ("result", result), ("success", .bool o.success)]

def toDocument (o : Outcome) : Document := o.document (o.payload.toDocument o.command.text)

/-- An outcome as a document that can be stored: floats that are not finite are left out. -/
def toStored (o : Outcome) : Document := o.document (o.payload.toDocument o.command.text).toStored

end Outcome

end PropertyGraph
