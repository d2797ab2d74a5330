import PropertyGraph.Document
import PropertyGraph.Supply

/-!
# Ledgers

A ledger records which blob holds which graph: each record has an id of its own, drawn when the
record is made, and says how the graph is called, how large it is and whether it is public.
-/

namespace PropertyGraph

/-- What is to be recorded about a graph. -/
structure RecordDraft where
  name : String
  description : String
  blob : String
  nodeCount : Nat
  relationshipCount : Nat
  isPublic : Bool
  tags : List String

/-- A record of a graph. -/
structure Record extends RecordDraft where
  id : String
  version : Nat
  createdAt : DateTime
  updatedAt : DateTime

/-- Records by their ids. -/
structure Ledger where
  records : OrderedMap String Record

def Record.toDocument (r : Record) : Document :=
  .map [("record_id", .text r.id), ("name", .text r.name), ("description", .text r.description),
    ("blob_id", .text r.blob), ("node_count", .int r.nodeCount),
    ("relationship_count", .int r.relationshipCount), ("is_public", .bool r.isPublic),
    ("tags", .list (r.tags.map .text)), ("version", .int r.version),
    ("created_at", .text r.createdAt.writtenNumeric),
    ("updated_at", .text r.updatedAt.writtenNumeric)]

namespace Ledger

def empty : Ledger := ⟨∅⟩

def recordWord : String := "graph"

def firstVersion : Nat := 1

/-- Makes a record with an id that is drawn, and returns the id. -/
def record (l : Ledger) (draft : RecordDraft) (supply : Supply) : String × Ledger × Supply :=
  let (token, tokens) := supply.tokens.next
  let (created, clock) := supply.clock.read
  let (updated, clock) := clock.read
  let id := recordWord ++ "_" ++ token
  let entry : Record :=
    { draft with
      id, version := firstVersion, createdAt := .ofInstant created,
      updatedAt := .ofInstant updated }
  (id, ⟨l.records.insert id entry⟩, { tokens, clock })

def get? (l : Ledger) (id : String) : Option Record := l.records.get? id

def publicRecords (l : Ledger) : List Record := l.records.values.filter (·.isPublic)

end Ledger

end PropertyGraph
