import PropertyGraph.Node

/-!
# Relationships

A relationship leads from a source node to a target node and has a type, a property map and possibly
a weight. A weight is refused if it is at most zero; without one a relationship counts as one of
weight one.
-/

namespace PropertyGraph

open Document

/-- A directed relationship between two nodes. -/
structure Relationship where
  id : String
  type : String
  source : String
  target : String
  properties : Properties
  weight : Option Float
  createdAt : DateTime
  updatedAt : DateTime
deriving DecidableEq

namespace Relationship

def defaultWeight : Float := 1

/-- The weight that analyses use. -/
def effectiveWeight (r : Relationship) : Float := r.weight.getD defaultWeight

def isSelfLoop (r : Relationship) : Bool := r.source == r.target

def touches (r : Relationship) (node : String) : Bool := r.source == node || r.target == node

/-- Accepts a weight unless it is at most zero. -/
def checkWeight (weight : Option Float) : Checked (Option Float) :=
  match weight with
  | some w => if w ≤ 0 then .fail (.rejected (.weight w)) else .accepted (some w)
  | none => .accepted none

/-- A relationship whose fields have all been checked. -/
def ofChecked (id type source target : Checked String) (properties : Checked Properties)
    (weight : Checked (Option Float)) (createdAt updatedAt : Checked DateTime) :
    Checked Relationship :=
  mk <$> id <*> type <*> source <*> target <*> properties <*> weight <*> createdAt <*> updatedAt

/-- A relationship from its parts, of which only the date-times are taken as they are. -/
def check (id type source target : String) (properties : List (String × Document))
    (weight : Document) (createdAt updatedAt : DateTime) : Checked Relationship :=
  ofChecked
    ((checkId .blankId id).within (.field "id"))
    ((checkType .blankRelationshipType type).within (.field "type"))
    ((checkId .blankId source).within (.field "sourceId"))
    ((checkId .blankId target).within (.field "targetId"))
    ((Properties.check properties).within (.field "properties"))
    ((weight.asFloat?.andThen checkWeight).within (.field "weight"))
    (.accepted createdAt) (.accepted updatedAt)

/-- A relationship from the entries of a map. -/
def ofEntries (entries : List (String × Document)) : Checked Relationship :=
  let id d := d.asText.andThen (checkId .blankId)
  ofChecked
    (required entries "id" "id" id)
    (required entries "type" "type" fun d => d.asText.andThen (checkType .blankRelationshipType))
    (required entries "sourceId" "source_id" id)
    (required entries "targetId" "target_id" id)
    (optional entries "properties" "properties" ∅ fun d => d.asMap.andThen Properties.check)
    (optional entries "weight" "weight" none fun d => d.asFloat?.andThen checkWeight)
    (required entries "createdAt" "created_at" asDateTime)
    (required entries "updatedAt" "updated_at" asDateTime)

/-- A relationship from a document. -/
def ofDocument : Document → Checked Relationship
  | .map entries => ofEntries entries
  | _ => .fail .notModel

/-- A relationship as a document that can be stored and read back. -/
def toDocument (r : Relationship) : Document :=
  .map [("id", .text r.id), ("type", .text r.type), ("sourceId", .text r.source),
    ("targetId", .text r.target), ("properties", r.properties.toStored),
    ("weight", r.weight.elim .null .float), ("createdAt", .text r.createdAt.written),
    ("updatedAt", .text r.updatedAt.written)]

/-- The short form of a relationship in the result of a selection. -/
def summary (r : Relationship) : Document :=
  .map [("id", .text r.id), ("type", .text r.type), ("sourceId", .text r.source),
    ("targetId", .text r.target), ("properties", .ofProperties r.properties)]

end Relationship

end PropertyGraph
