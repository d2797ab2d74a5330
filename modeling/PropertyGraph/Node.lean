import PropertyGraph.Coercion
import PropertyGraph.Text.Blank

/-!
# Nodes

A node has an id, a type, a property map, labels, and the date-times of its creation and its last
update. An id is not blank; a type is not blank and is kept without surrounding blanks; a property
has a key that is not empty and a scalar for its value. Each field is checked by a function of its
own, which relationships share where they have the same field.
-/

namespace PropertyGraph

open Text Document

/-- A node of a property graph. -/
structure Node where
  id : String
  type : String
  properties : Properties
  labels : List String
  createdAt : DateTime
  updatedAt : DateTime
deriving DecidableEq

/-! ## Checks of single fields -/

def checkId (reason : Rejection) (id : String) : Checked String :=
  if isBlankText id then .fail (.rejected reason) else .accepted id

/-- Accepts a type that is not blank, without its surrounding blanks. -/
def checkType (reason : Rejection) (type : String) : Checked String :=
  if isBlankText type then .fail (.rejected reason) else .accepted (trim type)

namespace Properties

/-- The name of a kind of nested value in messages. -/
def nestedKind : Document → String
  | .map _ => "dict"
  | _ => "list"

/-- What is wrong with an entry that is to become a property. -/
def rejection? (key : String) (value : Document) : Option Rejection :=
  if key = "" then some .emptyKey
  else if value.scalar?.isNone then some (.nestedValue key (nestedKind value))
  else none

/-- Accepts entries whose keys are not empty and whose values are scalars. -/
def check (entries : List (String × Document)) : Checked Properties :=
  match entries.findSome? fun e => rejection? e.1 e.2 with
  | some reason => .fail (.rejected reason)
  | none => .accepted (OrderedMap.ofList (entries.filterMap fun e => e.2.scalar?.map (e.1, ·)))

def toStored (m : Properties) : Document := .ofProperties (m.map Scalar.toStored)

end Properties

namespace Node

/-- A node whose fields have all been checked. -/
def ofChecked (id type : Checked String) (properties : Checked Properties)
    (labels : Checked (List String)) (createdAt updatedAt : Checked DateTime) : Checked Node :=
  mk <$> id <*> type <*> properties <*> labels <*> createdAt <*> updatedAt

/-- A node from its parts, of which only the date-times are taken as they are. -/
def check (id type : String) (properties : List (String × Document)) (labels : List Document)
    (createdAt updatedAt : DateTime) : Checked Node :=
  ofChecked
    ((checkId .blankNodeId id).within (.field "id"))
    ((checkType .blankNodeType type).within (.field "type"))
    ((Properties.check properties).within (.field "properties"))
    ((Checked.list asText labels).within (.field "labels"))
    (.accepted createdAt) (.accepted updatedAt)

/-- A node from the entries of a map. -/
def ofEntries (entries : List (String × Document)) : Checked Node :=
  ofChecked
    (required entries "id" "id" fun d => d.asText.andThen (checkId .blankNodeId))
    (required entries "type" "type" fun d => d.asText.andThen (checkType .blankNodeType))
    (optional entries "properties" "properties" ∅ fun d => d.asMap.andThen Properties.check)
    (optional entries "labels" "labels" [] fun d => d.asList.andThen (Checked.list asText))
    (required entries "createdAt" "created_at" asDateTime)
    (required entries "updatedAt" "updated_at" asDateTime)

/-- A node from a document. -/
def ofDocument : Document → Checked Node
  | .map entries => ofEntries entries
  | _ => .fail .notModel

/-- A node as a document that can be stored and read back. -/
def toDocument (n : Node) : Document :=
  .map [("id", .text n.id), ("type", .text n.type), ("properties", n.properties.toStored),
    ("labels", .list (n.labels.map .text)), ("createdAt", .text n.createdAt.written),
    ("updatedAt", .text n.updatedAt.written)]

/-- The short form of a node in the result of a selection. -/
def summary (n : Node) : Document :=
  .map [("id", .text n.id), ("type", .text n.type), ("properties", .ofProperties n.properties)]

end Node

end PropertyGraph
