import PropertyGraph.Analytics.Report
import PropertyGraph.Batch.Run
import PropertyGraph.Console.Arguments
import PropertyGraph.Json.Writer
import PropertyGraph.Settings.Basic

/-!
# The program

The program runs a batch on an empty graph and prints its result, on request together with an
analysis of the graph. It is a function of its arguments, of what it finds around it and of a supply
of ids and clock readings; it leaves an exit code, what it printed and what it complained about.
-/

namespace PropertyGraph.Console

/-- Why a file cannot be read, by the number and the words of the system. -/
structure FileFault where
  number : Nat
  reason : String
deriving DecidableEq

/-- What the program finds around it. -/
structure Surroundings where
  environment : OrderedMap String String
  envFile : Option String
  input : String
  fileAt : String → Except FileFault String

/-- What the program leaves. -/
structure Report where
  exitCode : Nat
  output : String
  complaints : List String
deriving DecidableEq

/-- Why the program breaks off without a report. -/
inductive Breakdown where
  | settings (violations : List Violation)
  | logLevel (word : String)
  | fileName
  | longNumeral (numeral : Decimal.LongNumeral)
  | output (fault : Json.WriteFault)

/-- What is said about the name of a file that cannot be looked for at all. -/
def fileNameMessage : String := "embedded null byte"

/-! ## Log levels -/

/-- The names of log levels that are understood beside those of the settings. -/
def otherLevels : List String := ["WARN", "FATAL", "NOTSET"]

/-- Whether a word names a log level in either case. -/
def isLevel (word : String) : Bool :=
  (LogLevel.ofWord? word).isSome || otherLevels.contains (Text.upper word)

/-- Accepts the log level that is asked for; an empty one counts as none. -/
def checkLevel (word : Option String) : Except Breakdown Unit :=
  match word with
  | none => .ok ()
  | some w => if w = "" || isLevel w then .ok () else .error (.logLevel w)

/-! ## Batches -/

def inputName : String := "-"

/-- Accepts the name of a file, which cannot hold a null character. -/
def checkFileName (file : Option String) : Except Breakdown Unit :=
  if file.any fun name => name.toList.contains '\x00' then .error .fileName else .ok ()

/-- What is complained about a file that cannot be read. -/
def fileComplaint (name : String) (fault : FileFault) : String :=
  "❌ Cannot read batch: [Errno " ++ toString fault.number ++ "] " ++ fault.reason ++ ": "
    ++ Text.quoted name

/-- The batch of a file or of the standard input, or what is complained about the file. -/
def readBatch (around : Surroundings) (file : Option String) : Except String String :=
  match file with
  | none => .ok (Text.LineBreak.unified around.input)
  | some name =>
    if name = inputName then .ok (Text.LineBreak.unified around.input)
    else ((around.fileAt name).map Text.LineBreak.unified).mapError (fileComplaint name)

/-! ## Reports -/

/-- Prints a document. -/
def Report.print (exitCode : Nat) (d : Document) : Except Breakdown Report :=
  if Json.isWritable d then .ok ⟨exitCode, Json.writeIndented 0 d ++ "\n", []⟩
  else .error (.output .longInteger)

/-- What is printed of a batch that ran to its end. -/
def resultDocument (settings : Settings) (request : Request) (result : BatchResult)
    (store : Store) : Document :=
  match request.task with
  | .run => result.toDocument
  | .analyze =>
    .map [("execution", result.toDocument),
      ("analysis", Analytics.analysis settings.walkRules store.snapshot request.operands.top)]

/-- Runs a batch on an empty graph. -/
def runText (settings : Settings) (request : Request) (text : String) (supply : Supply) :
    Except Breakdown Report :=
  match (Store.empty settings.policy).runBatch ⟨Shape.all, settings.batchLimit⟩ text supply with
  | (.error (.reported failure), _, _) => Report.print 1 failure.toDocument
  | (.error (.longNumeral numeral), _, _) => .error (.longNumeral numeral)
  | (.ok result, store, _) => Report.print 0 (resultDocument settings request result store)

/-- Does what a request asks for. -/
def perform (request : Request) (around : Surroundings) (supply : Supply) :
    Except Breakdown Report := do
  let sources := Settings.Sources.ofEnvironment around.environment around.envFile
  let settings ← (Settings.ofSources sources).toExcept.mapError .settings
  checkLevel request.logLevel
  checkFileName request.operands.file
  match readBatch around request.operands.file with
  | .error complaint => return ⟨2, "", [complaint]⟩
  | .ok text => runText settings request text supply

/-- Runs the program. Help ends it well, a misuse of its arguments does not. -/
def run (args : List String) (around : Surroundings) (supply : Supply) :
    Except Breakdown Report :=
  match Request.ofArguments args with
  | .error .help => .ok ⟨0, "", []⟩
  | .error .misuse => .ok ⟨2, "", []⟩
  | .ok request => perform request around supply

end PropertyGraph.Console
