import PropertyGraph.Store.Basic

/-!
# Changing nodes

Creating a node checks its type, settles its id, takes a stamp and then checks the data as a whole;
the first step that fails ends it. An update replaces the element in its place. A refused operation
leaves the elements alone, though a refused creation or update may have used a token and a stamp.
-/

namespace PropertyGraph

/-- What a new node is to be. Without an id it is given one. -/
structure NodeDraft where
  type : Document
  properties : List (String × Document)
  labels : List Document
  id : Option Document

/-- What is to change in a node: properties to assign or to replace all, and possibly labels. -/
structure NodeChange where
  properties : List (String × Document)
  labels : Option (List Document)
  replace : Bool

/-- The entries of a property map after a change. -/
def Properties.changed (m : Properties) (entries : List (String × Document)) (replace : Bool) :
    List (String × Document) :=
  ((if replace then ∅ else m.map Document.scalar : OrderedMap String Document).insertAll
    entries).entries

namespace Store

def nodeWord : String := "node"

/-- Puts a node in, under its id. -/
def putNode (s : Store) (n : Node) : Store := { s with nodes := s.nodes.insert n.id n }

/-- Adds a node and returns its id. -/
def createNode (s : Store) (draft : NodeDraft) (supply : Supply) :
    Except GraphError String × Store × Supply :=
  match draftType? draft.type with
  | none => (.error .blankNodeType, s, supply)
  | some type =>
    match newId draft.id nodeWord s.hasNode supply.tokens with
    | (.error e, tokens) => (.error e, s, { supply with tokens })
    | (.ok id, tokens) =>
      -- from here on a stamp is used up, whether or not the data are accepted
      let (t, s, supply) := s.stamp { supply with tokens }
      match Node.check id type (OrderedMap.ofList draft.properties).entries draft.labels t t with
      | .refused vs => (.error (.invalidNode vs), s, supply)
      | .accepted n => (.ok n.id, s.putNode n, supply)

/-- Changes a node and returns it as it is now. -/
def updateNode (s : Store) (id : String) (change : NodeChange) (supply : Supply) :
    Except GraphError Node × Store × Supply :=
  match s.node id with
  | .error e => (.error e, s, supply)
  | .ok n =>
    let (t, s, supply) := s.stamp supply
    let properties := n.properties.changed change.properties change.replace
    let labels := change.labels.getD (n.labels.map .text)
    match Node.check n.id n.type properties labels n.createdAt t with
    | .refused vs => (.error (.invalidNode vs), s, supply)
    | .accepted n => (.ok n, { s with nodes := s.nodes.insert id n }, supply)

def eraseRelationships (s : Store) (ids : List String) : Store :=
  { s with relationships := ids.foldl OrderedMap.erase s.relationships }

/--
Removes a node and the relationships that touch it, and returns the ids of these. Without cascading
deletes a node that is still touched stays.
-/
def deleteNode (s : Store) (id : String) : Except GraphError (List String) × Store :=
  match s.node id with
  | .error e => (.error e, s)
  | .ok _ =>
    let incident := s.incidentIds id
    if !incident.isEmpty && !s.policy.cascadeDeletes then
      (.error (.stillConnected id incident), s)
    else
      -- nothing is removed before it is clear that the node may go
      let s := s.eraseRelationships incident
      (.ok incident, { s with nodes := s.nodes.erase id })

end Store

end PropertyGraph
