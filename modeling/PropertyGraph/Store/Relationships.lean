import PropertyGraph.Store.Nodes

/-!
# Changing relationships

A relationship needs both its ends in the store. Creating one checks the source, the target, whether
they may be the same node, the type, the id, and after taking a stamp the data as a whole.
-/

namespace PropertyGraph

/-- What a new relationship is to be. Without an id it is given one. -/
structure RelationshipDraft where
  type : Document
  source : String
  target : String
  properties : List (String × Document)
  weight : Document
  id : Option Document

/-- What is to change in a relationship; a weight of nothing keeps the old one. -/
structure RelationshipChange where
  properties : List (String × Document)
  weight : Document
  replace : Bool

/-- The weight of a relationship after a change. -/
def Relationship.weightAfter (r : Relationship) (change : RelationshipChange) : Document :=
  match change.weight with
  | .scalar .null => r.weight.elim .null .float
  | given => given

namespace Store

def relationshipWord : String := "rel"

/-- Puts a relationship in, under its id. -/
def putRelationship (s : Store) (r : Relationship) : Store :=
  { s with relationships := s.relationships.insert r.id r }

/-- The type of a new relationship between two nodes, if the store admits it. -/
def admitEnds (s : Store) (draft : RelationshipDraft) : Except GraphError String :=
  if !s.hasNode draft.source then .error (.noSource draft.source)
  else if !s.hasNode draft.target then .error (.noTarget draft.target)
  else if draft.source = draft.target ∧ !s.policy.allowSelfLoops then
    .error (.selfLoop draft.source)
  else (draftType? draft.type).elim (.error .blankRelationshipType) .ok

/-- Adds a relationship and returns its id. -/
def createRelationship (s : Store) (draft : RelationshipDraft) (supply : Supply) :
    Except GraphError String × Store × Supply :=
  match s.admitEnds draft with
  | .error e => (.error e, s, supply)
  | .ok type =>
    match newId draft.id relationshipWord s.hasRelationship supply.tokens with
    | (.error e, tokens) => (.error e, s, { supply with tokens })
    | (.ok id, tokens) =>
      -- the ends are not looked at again, for nothing has been removed since
      let (t, s, supply) := s.stamp { supply with tokens }
      let properties := (OrderedMap.ofList draft.properties).entries
      match Relationship.check id type draft.source draft.target properties draft.weight t t with
      | .refused vs => (.error (.invalidRelationship vs), s, supply)
      | .accepted r => (.ok r.id, s.putRelationship r, supply)

/-- Changes a relationship and returns it as it is now. -/
def updateRelationship (s : Store) (id : String) (change : RelationshipChange) (supply : Supply) :
    Except GraphError Relationship × Store × Supply :=
  match s.relationship id with
  | .error e => (.error e, s, supply)
  | .ok r =>
    let (t, s, supply) := s.stamp supply
    let properties := r.properties.changed change.properties change.replace
    let weight := r.weightAfter change
    match Relationship.check r.id r.type r.source r.target properties weight r.createdAt t with
    | .refused vs => (.error (.invalidRelationship vs), s, supply)
    | .accepted r => (.ok r, { s with relationships := s.relationships.insert id r }, supply)

/-- Removes a relationship. -/
def deleteRelationship (s : Store) (id : String) : Except GraphError Unit × Store :=
  match s.relationship id with
  | .error e => (.error e, s)
  | .ok _ => (.ok (), { s with relationships := s.relationships.erase id })

end Store

end PropertyGraph
