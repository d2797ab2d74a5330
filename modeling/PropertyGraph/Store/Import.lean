import PropertyGraph.Store.Basic

/-!
# Importing snapshots

A snapshot is imported as a whole or not at all: first its ids, the ends of its relationships and
its self-loops are checked against the store, and only then are its elements added, with their ids
and date-times as they are. With `replace` the check is made as if the store were empty.
-/

namespace PropertyGraph.Store

/-- Checks that no id of the nodes is taken or occurs twice, and returns all of them. -/
def admitNodes (taken : String → Bool) (seen : List String) :
    List Node → Except GraphError (List String)
  | [] => .ok seen
  | n :: ns =>
    if taken n.id || seen.contains n.id then .error (.idInUse n.id)
    else admitNodes taken (n.id :: seen) ns

/-- Checks one relationship of a snapshot against the ids and ends that are known. -/
def admitRelationship (allowSelfLoops : Bool) (taken known : String → Bool) (r : Relationship) :
    Except GraphError Unit :=
  if taken r.id then .error (.idInUse r.id)
  else if !known r.source then .error (.danglingEnd r.id r.source)
  else if !known r.target then .error (.danglingEnd r.id r.target)
  else if r.isSelfLoop && !allowSelfLoops then .error (.selfLoop r.source)
  else .ok ()

/-- Checks the relationships of a snapshot one after the other. -/
def admitRelationships (allowSelfLoops : Bool) (taken known : String → Bool)
    (seen : List String) : List Relationship → Except GraphError Unit
  | [] => .ok ()
  | r :: rs => do
    admitRelationship allowSelfLoops (fun id => taken id || seen.contains id) known r
    admitRelationships allowSelfLoops taken known (r.id :: seen) rs

/-- Checks that a snapshot could be added to the elements of a store, or take their place. -/
def checkSnapshot (s : Store) (g : Snapshot) (replace : Bool) : Except GraphError Unit := do
  let base := if replace then s.clear else s
  let ids ← admitNodes base.hasNode [] g.nodes
  admitRelationships s.policy.allowSelfLoops base.hasRelationship
    (fun id => base.hasNode id || ids.contains id) [] g.relationships

def takeNode (s : Store) (n : Node) : Store :=
  { s with nodes := s.nodes.insert n.id n }.noteStamp n.updatedAt

def takeRelationship (s : Store) (r : Relationship) : Store :=
  { s with relationships := s.relationships.insert r.id r }.noteStamp r.updatedAt

/-- Adds the elements of a snapshot as they are. -/
def takeSnapshot (s : Store) (g : Snapshot) : Store :=
  g.relationships.foldl takeRelationship (g.nodes.foldl takeNode s)

/-- Adds a snapshot to a store, if it passes the check, and returns the numbers of its elements. -/
def importSnapshot (s : Store) (g : Snapshot) : Except GraphError (Nat × Nat) × Store :=
  match s.checkSnapshot g false with
  | .error e => (.error e, s)
  | .ok () => (.ok (g.nodes.length, g.relationships.length), s.takeSnapshot g)

/--
Puts a snapshot in the place of all elements, if it passes the check: then the store is cleared, and
importing the snapshot checks it once more.
-/
def replaceWith (s : Store) (g : Snapshot) : Except GraphError (Nat × Nat) × Store :=
  match s.checkSnapshot g true with
  | .error e => (.error e, s)
  | .ok () => s.clear.importSnapshot g

end PropertyGraph.Store
