import PropertyGraph.Digest
import PropertyGraph.GraphError
import PropertyGraph.Json.Reader
import PropertyGraph.Json.Writer
import PropertyGraph.Supply

/-!
# Archives

An archive keeps blobs: the bytes of snapshots, under ids that are the digests of these bytes. The
text of a snapshot is written with sorted keys, so that snapshots with the same content have the
same blob and it is kept once. A blob is read back as strictly as any other data, since it may have
been put there by someone else.
-/

namespace PropertyGraph

/-- What is told about a blob that has been stored. -/
structure Receipt where
  blob : String
  size : Nat
  timestamp : DateTime
deriving DecidableEq

/-- Whether a snapshot can be written. -/
def Snapshot.isWritable (g : Snapshot) : Bool := Json.isWritable g.toDocument

/-- Blobs by their ids. -/
structure Archive where
  blobs : OrderedMap String ByteArray

namespace Archive

/-- Why the content of a blob is not a snapshot. -/
inductive ContentFault where
  | notText
  | notJson (fault : Json.Fault)
  | notSnapshot (fault : Snapshot.Fault)
deriving DecidableEq

/-- Why a blob cannot be loaded. -/
inductive Fault where
  | missing (id : String)
  | unreadable (id : String) (content : ContentFault)
deriving DecidableEq

def empty : Archive := ⟨∅⟩

def size (a : Archive) : Nat := a.blobs.size

def put (a : Archive) (id : String) (bytes : ByteArray) : Archive := ⟨a.blobs.insert id bytes⟩

/-! ## Storing -/

def text (g : Snapshot) : String := Json.write (Json.sortKeys g.toDocument)

def bytes (g : Snapshot) : ByteArray := (text g).toUTF8

/-- The id that a snapshot has in every archive. -/
def blobId (g : Snapshot) : String := Digest.hex (bytes g)

/-- Stores a snapshot that can be written, and stamps the receipt with a reading of the clock. -/
def store (a : Archive) (g : Snapshot) (clock : Clock) :
    Except Json.WriteFault Receipt × Archive × Clock :=
  if g.isWritable then
    let id := blobId g
    let content := bytes g
    let (reading, clock) := clock.read
    (.ok { blob := id, size := content.size, timestamp := .ofInstant reading }, a.put id content,
      clock)
  else (.error .longInteger, a, clock)

/-! ## Loading -/

/-- The snapshot that some bytes are the text of. -/
def decode (content : ByteArray) : Except ContentFault Snapshot := do
  let text ← (String.fromUTF8? content).elim (.error .notText) .ok
  let document ← (Json.read text).mapError .notJson
  (Snapshot.ofDocument document).mapError .notSnapshot

/-- The snapshot of a blob. -/
def load (a : Archive) (id : String) : Except Fault Snapshot :=
  match a.blobs.get? id with
  | none => .error (.missing id)
  | some content => (decode content).mapError (.unreadable id)

namespace Fault

def message : Fault → String
  | missing id => "Blob " ++ id ++ " not found"
  | unreadable id _ => "Blob " ++ id ++ " is not a valid snapshot"

def operation : String := "load"

/--
What is told about a fault. A document that is no map, and one that is nested too deeply, break off
the reading instead of being told of as a fault of the archive.
-/
def report? (f : Fault) : Option ErrorReport :=
  match f with
  | missing id => some (.storage f.message (some operation) [("blob_id", .text id)])
  | unreadable _ (.notJson (.tooDeep _)) => none
  | unreadable _ (.notSnapshot .notMap) => none
  | unreadable .. => some (.storage f.message (some operation) [])

/-- The violations behind a fault, and what they were found in. -/
def violations? : Fault → Option (Model × List Violation)
  | unreadable _ (.notSnapshot (.refused model vs)) => some (model, vs)
  | _ => none

end Fault

end Archive

/-- The snapshot of the same elements with the name and the description that some metadata give. -/
def Snapshot.retitled (g : Snapshot) (metadata : List (String × Document)) :
    Except Snapshot.Fault Snapshot :=
  match readTitle metadata with
  | .accepted (name, description) => .ok { g with name, description }
  | .refused vs => .error (.refused .snapshot vs)

end PropertyGraph
