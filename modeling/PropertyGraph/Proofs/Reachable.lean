import PropertyGraph.Batch.Run
import PropertyGraph.Publication

/-!
# Calls and reachable stores

A store is changed by calls only: a call is a name of one of the operations with its arguments, and
`Store.call` makes it and says whether it was refused, and why. The stores that can be reached are
those that any calls, refused or not, lead to from a store without elements, under any tokens and
readings of the clock.

A snapshot can be put together out of anything, but programs have it from two places only: it was
read from a document, or taken from a store. Reachability asks for that when a snapshot is imported.
What is restored from an archive is always read from the bytes of a blob, whoever put them there.
-/

namespace PropertyGraph

/-- Why a call is refused. -/
inductive Refusal where
  | graph (error : GraphError)
  | restore (fault : RestoreFault)
  | batch (stop : Halt BatchFailure)

/-- The refusal in an answer, if the answer is one. -/
def Refusal.of? {ε α : Type} (refuse : ε → Refusal) : Except ε α → Option Refusal
  | .error e => some (refuse e)
  | .ok _ => none

/-- The operations that a store offers, with their arguments. -/
inductive Call where
  | createNode (draft : NodeDraft)
  | updateNode (id : String) (change : NodeChange)
  | deleteNode (id : String)
  | createRelationship (draft : RelationshipDraft)
  | updateRelationship (id : String) (change : RelationshipChange)
  | deleteRelationship (id : String)
  | clear
  | checkSnapshot (g : Snapshot) (replace : Bool)
  | importSnapshot (g : Snapshot)
  | restore (a : Archive) (blob : String)
  | runBatch (rules : BatchRules) (text : String)

namespace Call

/-- The snapshot that a call imports, if it is handed one. -/
def imported? : Call → Option Snapshot
  | importSnapshot g => some g
  | _ => none

/-- Whether a call creates or updates an element, for which it takes a stamp. -/
def stamps : Call → Bool
  | createNode _ | updateNode .. | createRelationship _ | updateRelationship .. => true
  | _ => false

/-- Whether a call is a batch, of which a part may be done when it is refused. -/
def isBatch : Call → Bool
  | runBatch .. => true
  | _ => false

end Call

/-- Makes a call; the result is the refusal, if there is one, and what is left. -/
def Store.call (s : Store) (supply : Supply) : Call → Option Refusal × Store × Supply
  | .createNode draft =>
    let (answer, s, supply) := s.createNode draft supply
    (Refusal.of? .graph answer, s, supply)
  | .updateNode id change =>
    let (answer, s, supply) := s.updateNode id change supply
    (Refusal.of? .graph answer, s, supply)
  | .deleteNode id =>
    let (answer, s) := s.deleteNode id
    (Refusal.of? .graph answer, s, supply)
  | .createRelationship draft =>
    let (answer, s, supply) := s.createRelationship draft supply
    (Refusal.of? .graph answer, s, supply)
  | .updateRelationship id change =>
    let (answer, s, supply) := s.updateRelationship id change supply
    (Refusal.of? .graph answer, s, supply)
  | .deleteRelationship id =>
    let (answer, s) := s.deleteRelationship id
    (Refusal.of? .graph answer, s, supply)
  | .clear => (none, s.clear, supply)
  | .checkSnapshot g replace => (Refusal.of? .graph (s.checkSnapshot g replace), s, supply)
  | .importSnapshot g =>
    let (answer, s) := s.importSnapshot g
    (Refusal.of? .graph answer, s, supply)
  | .restore a blob =>
    let (answer, s) := s.restore a blob
    (Refusal.of? .restore answer, s, supply)
  | .runBatch rules text =>
    let (answer, s, supply) := s.runBatch rules text supply
    (Refusal.of? .batch answer, s, supply)

/-- The stores that calls lead to. -/
inductive Reachable : Store → Prop where
  /-- A store without elements, under any policy. -/
  | empty (policy : Policy) : Reachable (.empty policy)
  /-- After any call that is handed no snapshot, refused or not. -/
  | call {s : Store} (h : Reachable s) (supply : Supply) (c : Call) (hc : c.imported? = none) :
    Reachable (s.call supply c).2.1
  /-- After importing a snapshot that was read from a document. -/
  | importRead {s : Store} (h : Reachable s) (supply : Supply) {d : Document} {g : Snapshot}
    (hg : Snapshot.ofDocument d = .ok g) : Reachable (s.call supply (.importSnapshot g)).2.1
  /-- After importing the snapshot of a store. -/
  | importTaken {s t : Store} (h : Reachable s) (supply : Supply) (ht : Reachable t) :
    Reachable (s.call supply (.importSnapshot t.snapshot)).2.1

/-! ## Calls in sequence -/

/-- Makes calls one after the other, whether they are refused or not. -/
def Store.calls (s : Store) (supply : Supply) : List Call → Store × Supply
  | [] => (s, supply)
  | c :: cs =>
    let (_, s, supply) := s.call supply c
    s.calls supply cs

theorem Reachable.calls {s : Store} (h : Reachable s) (supply : Supply) {cs : List Call}
    (hcs : ∀ c ∈ cs, c.imported? = none) : Reachable (s.calls supply cs).1 := by
  induction cs generalizing s supply with
  | nil => exact h
  | cons c cs ih =>
    exact ih (h.call supply c (hcs c List.mem_cons_self)) _
      fun c' hc' => hcs c' (List.mem_cons_of_mem _ hc')

/-- Two nodes that are joined both ways, and one with a self-loop if these are allowed. -/
def Store.sample (policy : Policy) : Store :=
  ((Store.empty policy).calls ⟨⟨[], fun _ => "", 0⟩, .still 0⟩
    [.createNode ⟨.text "A", [], [], some (.text "a")⟩,
      .createNode ⟨.text "A", [("size", .int 1)], [], some (.text "b")⟩,
      .createNode ⟨.text "B", [], [.text "odd"], some (.text "c")⟩,
      .createRelationship ⟨.text "T", "a", "b", [], .null, some (.text "r")⟩,
      .createRelationship ⟨.text "U", "b", "a", [], .null, some (.text "s")⟩,
      .createRelationship ⟨.text "T", "c", "c", [], .null, some (.text "l")⟩]).1

theorem Reachable.sample (policy : Policy) : Reachable (.sample policy) :=
  (Reachable.empty policy).calls _ (by simp [Call.imported?])

end PropertyGraph
