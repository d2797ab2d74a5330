import PropertyGraph.Document
import PropertyGraph.Text.Case

/-!
# Log entries

What is logged about an error: the method of the log that is called, named for a level, an event,
and fields, of which the first two are the text and the kind of the error. A caller may add details
by name; one that is named for the message or the level takes the place of the default, and all
others become fields.
-/

namespace PropertyGraph

/-- One call of a log. -/
structure LogEntry where
  method : String
  event : Document
  fields : List (String × Document)

namespace LogEntry

/-- Why details do not make an entry. -/
inductive Fault where
  | repeated (name : String)
  | notLevel
deriving DecidableEq

def defaultEvent : String := "An error occurred"

def defaultLevel : String := "error"

/-- The names that details cannot go by, since the log and the error itself have them. -/
def takenNames : List String := ["logger", "exc"]

/-- The names of the details that do not become fields. -/
def settledNames : List String := ["message", "level"]

/-- The fields that every entry about an error starts with. -/
def ownFields (kind text : String) : List (String × Document) :=
  [("error", .text text), ("error_type", .text kind)]

/-- The first name that is among some names, or stands twice in a list. -/
def firstRepeated? (names : List String) : List String → Option String
  | [] => none
  | name :: rest =>
    if names.contains name then some name else firstRepeated? (name :: names) rest

/-- The entry about an error, with details. The event goes by a name that no field can have. -/
def ofError (kind text : String) (details : List (String × Document)) :
    Except Fault LogEntry := do
  let level := (details.lookup "level").getD (.text defaultLevel)
  let event := (details.lookup "message").getD (.text defaultEvent)
  let own := ownFields kind text
  let others := details.filter fun d => !settledNames.contains d.1
  if let some name := firstRepeated? takenNames (details.map Prod.fst) then throw (.repeated name)
  let some level := level.text? | throw .notLevel
  if let some name := firstRepeated? ("event" :: own.map Prod.fst) (others.map Prod.fst) then
    throw (.repeated name)
  return { method := Text.lower level, event, fields := own ++ others }

def toDocument (e : LogEntry) : Document :=
  .map [("method", .text e.method), ("event", e.event), ("fields", .map e.fields)]

end LogEntry

end PropertyGraph
