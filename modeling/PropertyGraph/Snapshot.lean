import PropertyGraph.Relationship

/-!
# Snapshots

A snapshot is a graph as plain data: the lists of its nodes and relationships and possibly a name
and a description. Nothing ties the relationships to the nodes; that is checked where a snapshot is
imported. The statistics of a snapshot count its elements by type.
-/

namespace PropertyGraph

open Document

/-- The nodes and relationships of a graph. -/
structure Snapshot where
  nodes : List Node
  relationships : List Relationship
  name : Option String
  description : Option String
deriving DecidableEq

/-- How many elements of which type a graph has. -/
structure Stats where
  nodeCount : Nat
  relationshipCount : Nat
  nodeTypes : OrderedMap String Nat
  relationshipTypes : OrderedMap String Nat

/-- How often each item of a list occurs, in the order of first occurrence. -/
def tally {α : Type} [DecidableEq α] (items : List α) : OrderedMap α Nat :=
  items.foldl (fun m a => m.insert a ((m.get? a).getD 0 + 1)) ∅

namespace Stats

/-- The statistics of lists of elements. -/
def ofElements (nodes : List Node) (relationships : List Relationship) : Stats where
  nodeCount := nodes.length
  relationshipCount := relationships.length
  nodeTypes := tally (nodes.map Node.type)
  relationshipTypes := tally (relationships.map Relationship.type)

def countsDocument (m : OrderedMap String Nat) : Document :=
  .map (m.entries.map fun e => (e.1, .int e.2))

def toDocument (s : Stats) : Document :=
  .map [("nodeCount", .int s.nodeCount), ("relationshipCount", .int s.relationshipCount),
    ("nodeTypes", countsDocument s.nodeTypes),
    ("relationshipTypes", countsDocument s.relationshipTypes)]

end Stats

/-- The kinds of data that violations are reported for. -/
inductive Model where
  | node
  | relationship
  | snapshot
  | settings
deriving DecidableEq

def Model.name : Model → String
  | node => "Node"
  | relationship => "Relationship"
  | snapshot => "GraphSnapshot"
  | settings => "Settings"

namespace Snapshot

/-- Why a document is not a snapshot. -/
inductive Fault where
  | notMap
  | notIterable
  | refused (model : Model) (violations : List Violation)
deriving DecidableEq

def stats (s : Snapshot) : Stats := Stats.ofElements s.nodes s.relationships

def nodeIds (s : Snapshot) : List String := s.nodes.map Node.id

def nodesOfType (s : Snapshot) (type : Option String) : List Node :=
  s.nodes.filter fun n => type.all (n.type == ·)

def relationshipsOfType (s : Snapshot) (type : Option String) : List Relationship :=
  s.relationships.filter fun r => type.all (r.type == ·)

/-- A snapshot as a document that can be stored and read back. -/
def toDocument (s : Snapshot) : Document :=
  .map [("nodes", .list (s.nodes.map Node.toDocument)),
    ("relationships", .list (s.relationships.map Relationship.toDocument)),
    ("name", .ofText? s.name), ("description", .ofText? s.description)]

/-- What a document goes through when it is read item by item: a map gives its keys, a text its
characters. -/
def itemsOf? : Document → Option (List Document)
  | .list items => some items
  | .map entries => some (entries.map fun e => .text e.1)
  | .scalar (.text s) => some (s.toList.map fun c => .text c.toString)
  | _ => none

/-- Reads the elements under a key; the first that is refused ends the reading. -/
def readElements {α : Type} (entries : List (String × Document)) (key : String) (model : Model)
    (read : Document → Checked α) : Except Fault (List α) :=
  match itemsOf? ((entries.lookup key).getD (.list [])) with
  | none => .error .notIterable
  | some items => items.mapM fun d => (read d).toExcept.mapError (.refused model)

/-- Reads the name and the description. -/
def readTitle (entries : List (String × Document)) : Checked (Option String × Option String) :=
  Prod.mk <$> optional entries "name" "name" none asText?
    <*> optional entries "description" "description" none asText?

/-- A snapshot from a document. -/
def ofDocument : Document → Except Fault Snapshot
  | .map entries => do
    let nodes ← readElements entries "nodes" .node Node.ofDocument
    let relationships ← readElements entries "relationships" .relationship Relationship.ofDocument
    let (name, description) ← (readTitle entries).toExcept.mapError (.refused .snapshot)
    return { nodes, relationships, name, description }
  | _ => .error .notMap

end Snapshot

end PropertyGraph
