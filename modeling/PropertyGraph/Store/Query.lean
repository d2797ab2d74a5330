import PropertyGraph.Store.Relationships

/-!
# Asking a store

Elements are listed in the order in which they were added. A relationship is incident to a node as
an outgoing one if the node is its source and as an incoming one if the node is its target; a
self-loop is both, and is still listed once.
-/

namespace PropertyGraph

/-- Which of the relationships at a node are meant. -/
inductive Direction where
  | incoming
  | outgoing
  | both
deriving DecidableEq

namespace Direction

/-- The direction a word names. -/
def ofWord? (word : String) : Option Direction :=
  if word = "in" then some incoming
  else if word = "out" then some outgoing
  else if word = "both" then some both
  else none

def unknownMessage (word : String) : String :=
  "Direction must be one of ('in', 'out', 'both'), got " ++ word

/-- Whether a relationship is incident to a node in a direction. -/
def meets (d : Direction) (r : Relationship) (node : String) : Bool :=
  (d != incoming && r.source == node) || (d != outgoing && r.target == node)

end Direction

namespace Store

def nodesOfType (s : Store) (type : Option String) : List Node := s.snapshot.nodesOfType type

def relationshipsOfType (s : Store) (type : Option String) : List Relationship :=
  s.snapshot.relationshipsOfType type

/-- The relationships of a type, or of any, that are incident to a node. -/
def nodeRelationships (s : Store) (id : String) (type : Option String) (direction : Direction) :
    Except GraphError (List Relationship) := do
  let _ ← s.node id
  return (s.relationshipsOfType type).filter fun r => direction.meets r id

/-- The nodes at the other ends of the relationships of a type, or of any, that touch a node. -/
def neighbours (s : Store) (id : String) (type : Option String) :
    Except GraphError (List Node) := do
  let incident ← s.nodeRelationships id type .both
  let ends := incident.map fun r => if r.source == id then r.target else r.source
  return (s.nodes.entries.filter fun e => ends.contains e.1).map Prod.snd

end Store

end PropertyGraph
