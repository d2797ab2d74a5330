import PropertyGraph.Supply

/-!
# Stores

A store holds the nodes and the relationships of a graph by their ids, in the order in which they
were added, and the policies under which it accepts changes. It remembers the last time stamp it
handed out or took in, and never hands out an earlier one, whatever the clock says.
-/

namespace PropertyGraph

/-- What a store does about ends that vanish and ends that meet. -/
structure Policy where
  cascadeDeletes : Bool
  allowSelfLoops : Bool
deriving DecidableEq

/-- A graph that can change. -/
structure Store where
  policy : Policy
  nodes : OrderedMap String Node
  relationships : OrderedMap String Relationship
  lastStamp : Option DateTime

namespace Store

def empty (policy : Policy) : Store := ⟨policy, ∅, ∅, none⟩

def hasNode (s : Store) (id : String) : Bool := s.nodes.contains id

def hasRelationship (s : Store) (id : String) : Bool := s.relationships.contains id

def node (s : Store) (id : String) : Except GraphError Node :=
  (s.nodes.get? id).elim (.error (.noNode id)) .ok

def relationship (s : Store) (id : String) : Except GraphError Relationship :=
  (s.relationships.get? id).elim (.error (.noRelationship id)) .ok

/-- The stamp for a clock reading: the reading, or the last stamp if that is later. -/
def stampFor (s : Store) (reading : Int) : DateTime :=
  match s.lastStamp with
  | none => .ofInstant reading
  | some last => (DateTime.ofInstant reading).laterOf last

/-- Takes the clock's reading for a stamp, which becomes the last one. -/
def stamp (s : Store) (supply : Supply) : DateTime × Store × Supply :=
  let (reading, clock) := supply.clock.read
  let t := s.stampFor reading
  (t, { s with lastStamp := some t }, { supply with clock })

/-- Notes a stamp that came in from outside; without an offset it counts as universal time. -/
def noteStamp (s : Store) (seen : DateTime) : Store :=
  { s with lastStamp := some ((s.lastStamp.map (·.laterOf seen.withOffset)).getD seen.withOffset) }

/-- All elements as plain data. -/
def snapshot (s : Store) : Snapshot where
  nodes := s.nodes.values
  relationships := s.relationships.values
  name := none
  description := none

def stats (s : Store) : Stats := Stats.ofElements s.nodes.values s.relationships.values

/-- Removes all elements. The last stamp stays. -/
def clear (s : Store) : Store := { s with nodes := ∅, relationships := ∅ }

/-- The ids of the relationships that touch a node. -/
def incidentIds (s : Store) (node : String) : List String :=
  (s.relationships.entries.filter fun e => e.2.touches node).map Prod.fst

/-- The type of a draft, if it is a text that is not blank. -/
def draftType? : Document → Option String
  | .scalar (.text t) => if Text.isBlankText t then none else some t
  | _ => none

/-- The id of a new element: the caller's, if it can be used, or one that is drawn. -/
def newId (given : Option Document) (word : String) (taken : String → Bool)
    (tokens : TokenSource) : Except GraphError String × TokenSource :=
  match given with
  | none => drawId word taken tokens
  | some value =>
    match callerId value with
    | .error e => (.error e, tokens)
    | .ok id => (if taken id then .error (.idInUse id) else .ok id, tokens)

end Store

end PropertyGraph
