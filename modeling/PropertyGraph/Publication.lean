import PropertyGraph.Archive
import PropertyGraph.Ledger
import PropertyGraph.Store.Import

/-!
# Publishing and restoring

To publish a graph is to store its snapshot in an archive and to record the blob in a ledger. To
restore a graph from a blob is to put the blob's snapshot in the place of all elements of a store;
the store stays as it is if the blob cannot be loaded or its snapshot is refused.
-/

namespace PropertyGraph

/-- How a graph is published. -/
structure Publication where
  name : String
  description : String
  isPublic : Bool
  tags : List String

/-- Where publications go. -/
structure Shelf where
  archive : Archive
  ledger : Ledger

def Shelf.empty : Shelf := ⟨.empty, .empty⟩

def Publication.snapshot (p : Publication) (g : Snapshot) : Snapshot :=
  { g with name := some p.name, description := some p.description }

def Publication.draft (p : Publication) (g : Snapshot) (blob : String) : RecordDraft where
  name := p.name
  description := p.description
  blob := blob
  nodeCount := g.nodes.length
  relationshipCount := g.relationships.length
  isPublic := p.isPublic
  tags := p.tags

/--
Publishes a graph, and returns the receipt of its blob and the id of its record. Of a graph that is
not stored no record is made.
-/
def Shelf.publish (s : Shelf) (g : Snapshot) (p : Publication) (supply : Supply) :
    Except Json.WriteFault (Receipt × String) × Shelf × Supply :=
  match s.archive.store (p.snapshot g) supply.clock with
  | (.error f, archive, clock) => (.error f, { s with archive }, { supply with clock })
  | (.ok receipt, archive, clock) =>
    let (record, ledger, supply) := s.ledger.record (p.draft g receipt.blob) { supply with clock }
    (.ok (receipt, record), { archive, ledger }, supply)

/-- Why a graph is not restored. -/
inductive RestoreFault where
  | archive (fault : Archive.Fault)
  | graph (error : GraphError)
deriving DecidableEq

/-- Restores a graph from a blob, and returns the numbers of its nodes and relationships. -/
def Store.restore (s : Store) (a : Archive) (blob : String) :
    Except RestoreFault (Nat × Nat) × Store :=
  match a.load blob with
  | .error f => (.error (.archive f), s)
  | .ok g =>
    let (result, s) := s.replaceWith g
    (result.mapError .graph, s)

end PropertyGraph
