import PropertyGraph.Batch.Outcome
import PropertyGraph.Command.Shape
import PropertyGraph.Store.Query

/-!
# Running batches

A batch is a text whose lines are commands. They run in order, each on what the one before left; the
first that is refused stops the batch, and what was done before it stays done. A batch of too many
lines is refused as a whole. Why a batch has stopped is reported, unless a numeral has stopped it.
Running is the same for every kind of graph: it folds a step, which runs one command, over the
lines.
-/

namespace PropertyGraph

/-- How a batch is read: the shapes a line is tried on, and the number of lines allowed. -/
structure BatchRules where
  shapes : List Shape
  limit : Int

/-- What a batch did, from its first line to its last. -/
structure BatchResult where
  outcomes : List Outcome
  timestamp : DateTime
  stats : Stats

/-- Why and when a batch stopped. -/
structure BatchFailure where
  cause : GraphError
  batch : String
  timestamp : DateTime

namespace BatchResult

/-- The number of commands that were understood. -/
def executed (r : BatchResult) : Nat := r.outcomes.countP Outcome.success

/-- The result as a document. -/
def toDocument (r : BatchResult) : Document :=
  .map [("executedCommands", .int r.executed),
    ("commands", .list (r.outcomes.map Outcome.toStored)),
    ("timestamp", .text r.timestamp.writtenNumeric), ("graphStats", r.stats.toDocument)]

end BatchResult

namespace BatchFailure

/-- The failure as a document. No command counts as executed. -/
def toDocument (f : BatchFailure) : Document :=
  .map [("error", .text f.cause.message), ("originalQuery", .text f.batch),
    ("timestamp", .text f.timestamp.writtenNumeric), ("executedCommands", .int 0)]

def report (f : BatchFailure) : ErrorReport :=
  .execution f.cause.message f.batch (some f.cause.report.kind.name)

end BatchFailure

namespace Batch

open Text

/-- What a batch is answered with: its result, or its failure if there is one to report. -/
def reply? : Except (Halt BatchFailure) BatchResult → Option Document
  | .ok r => some r.toDocument
  | .error (.reported f) => some f.toDocument
  | .error (.longNumeral _) => none

/-- The pieces of a text between its line breaks; there is at least one. -/
def cutLines : List Char → List (List Char)
  | [] => [[]]
  | c :: s =>
    if c = '\n' then [] :: cutLines s
    else
      match cutLines s with
      | [] => [[c]]
      | line :: lines => (c :: line) :: lines

/-- The lines of a batch, trimmed; blank ones do not count. -/
def lines (text : String) : List String :=
  (((cutLines text.toList).map strip).filter (· ≠ [])).map String.ofList

/-- Runs lines in order until one is refused. -/
def runLines {σ : Type} (shapes : List Shape)
    (step : σ → Command → Except GraphError Outcome × σ) (s : σ) :
    List String → Except (Halt GraphError) (List Outcome) × σ
  | [] => (.ok [], s)
  | line :: rest =>
    match Command.parse shapes line with
    | .error halt => (.error (halt.map .command), s)
    | .ok c =>
      match step s c with
      -- what the lines before have done stays done
      | (.error e, s) => (.error (.reported e), s)
      | (.ok o, s) =>
        let (result, s) := runLines shapes step s rest
        (result.map (o :: ·), s)

/-- Runs a batch, unless it has too many lines. -/
def run {σ : Type} (rules : BatchRules) (step : σ → Command → Except GraphError Outcome × σ)
    (s : σ) (text : String) : Except (Halt GraphError) (List Outcome) × σ :=
  let ls := lines text
  if rules.limit < ls.length then
    (.error (.reported (.batchTooLong ls.length rules.limit)), s)
  else runLines rules.shapes step s ls

/-- The result or failure of a batch, stamped with a reading of the clock. -/
def conclude (text : String) (outcomes : Except (Halt GraphError) (List Outcome)) (stats : Stats)
    (clock : Clock) : Except (Halt BatchFailure) BatchResult × Clock :=
  let (reading, later) := clock.read
  let timestamp := DateTime.ofInstant reading
  match outcomes with
  | .ok outcomes => (.ok { outcomes, timestamp, stats }, later)
  | .error (.reported cause) => (.error (.reported { cause, batch := text, timestamp }), later)
  -- the clock is not read for a stamp that nothing would bear
  | .error (.longNumeral n) => (.error (.longNumeral n), clock)

end Batch

/--
What a command selects from a graph, if it is a selection or is not understood. A command that would
change the graph selects nothing.
-/
def Snapshot.select? (g : Snapshot) (a : Action) : Option Payload :=
  match a with
  | .selectNodes _ type returns => some (.nodes a.pattern (g.nodesOfType type) returns)
  | .selectAllNodes => some (.nodes a.pattern (g.nodesOfType none) Action.returnsAll)
  | .selectRelationships p =>
    some (.relationships a.pattern (g.relationshipsOfType p.type) p.returns)
  | .unknown => some .unknown
  | .create .. | .clear => none

/-- Runs one command on a graph that cannot change; what would change it is not understood. -/
def Snapshot.execute (g : Snapshot) (c : Command) : Outcome :=
  ⟨c, (g.select? c.action).getD .unknown⟩

/-- Runs a batch on a graph that cannot change. -/
def Snapshot.runBatch (g : Snapshot) (rules : BatchRules) (text : String) (clock : Clock) :
    Except (Halt BatchFailure) BatchResult × Clock :=
  let (outcomes, _) := Batch.run rules (fun (u : Unit) c => (.ok (g.execute c), u)) () text
  Batch.conclude text outcomes g.stats clock

namespace Store

/-- Runs one command. -/
def execute (s : Store) (supply : Supply) (c : Command) :
    Except GraphError Outcome × Store × Supply :=
  match c.action with
  | .create name type properties =>
    let entries := properties.entries.map fun e => (e.1, Document.scalar e.2)
    match s.createNode ⟨.text type, entries, [], none⟩ supply with
    | (.error e, s, supply) => (.error e, s, supply)
    | (.ok id, s, supply) => (.ok ⟨c, .created id name type properties⟩, s, supply)
  | .clear => (.ok ⟨c, .cleared⟩, s.clear, supply)
  | _ => (.ok (s.snapshot.execute c), s, supply)

def step (state : Store × Supply) (c : Command) : Except GraphError Outcome × Store × Supply :=
  state.1.execute state.2 c

/-- Runs a batch. -/
def runBatch (s : Store) (rules : BatchRules) (text : String) (supply : Supply) :
    Except (Halt BatchFailure) BatchResult × Store × Supply :=
  let (outcomes, s, supply) := Batch.run rules step (s, supply) text
  let (result, clock) := Batch.conclude text outcomes s.stats supply.clock
  (result, s, { supply with clock })

end Store

end PropertyGraph
