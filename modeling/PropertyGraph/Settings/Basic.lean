import PropertyGraph.Analytics.PageRank
import PropertyGraph.Coercion
import PropertyGraph.Settings.EnvFile
import PropertyGraph.Store.Basic

/-!
# Settings

A setting is given as an argument, in the environment, or in an environment file, and has a default.
It goes by its name and by a longer name of its own. Arguments take precedence over everything else;
after them the longer name takes precedence over the shorter one, and for each of the two the
environment over the file. Names are read in either case, and an argument whose name is in the case
of the setting is preferred. All settings are checked together, and a violation names the setting as
it was given, as far as that is one of its two names.
-/

namespace PropertyGraph

/-- How much is logged. -/
inductive LogLevel where
  | debug
  | info
  | warning
  | error
  | critical
deriving DecidableEq, Inhabited

namespace LogLevel

/-- The levels from the most to the least talkative. -/
def all : List LogLevel := [debug, info, warning, error, critical]

def name : LogLevel → String
  | debug => "DEBUG"
  | info => "INFO"
  | warning => "WARNING"
  | error => "ERROR"
  | critical => "CRITICAL"

def ofWord? (word : String) : Option LogLevel := all.find? fun l => l.name = Text.upper word

theorem ofWord?_name (l : LogLevel) : ofWord? l.name = some l := by
  cases l <;> decide +kernel

end LogLevel

/-- How the program behaves where a caller does not say otherwise. -/
structure Settings where
  logLevel : LogLevel
  environment : String
  policy : Policy
  damping : Float
  maxIterations : Int
  tolerance : Float
  batchLimit : Int

namespace Settings

/-! ## Sources -/

/-- Where settings are taken from. -/
structure Sources where
  arguments : List (String × Document)
  environment : OrderedMap String String
  file : EnvFile.Bindings

/-- The sources of a program that is given no arguments, only an environment and maybe a file. -/
def Sources.ofEnvironment (environment : OrderedMap String String) (file : Option String) :
    Sources where
  arguments := []
  environment := environment
  file := file.elim ∅ (EnvFile.read environment)

/-- The value of a variable whose name is read in either case; of several the last counts. -/
def valueIn? (entries : List (String × Option String)) (name : String) : Option Document :=
  let found := entries.filter fun e => Text.lower e.1 = Text.lower name
  (found.getLast?.bind Prod.snd).map .text

namespace Sources

/-- The longer name of a setting. -/
def longName (name : String) : String := "WALGRAPH_" ++ Text.upper name

/-- The value of the argument with a name, or of the first with the name in another case. -/
def argument? (s : Sources) (name : String) : Option Document :=
  (s.arguments.lookup name).or <|
    (s.arguments.find? fun a => Text.lower a.1 = Text.lower name).map Prod.snd

/-- The name for the argument of a setting: the longer one, unless only the shorter was given. -/
def argumentName (s : Sources) (name : String) : String :=
  let isGiven (name : String) := (s.arguments.lookup name).isSome
  if !isGiven (longName name) && isGiven name then name else longName name

/-- The value outside the program, with the name under which it is looked up. -/
def outside? (s : Sources) (name : String) : Option (String × Document) :=
  let environment := s.environment.entries.map fun e => (e.1, some e.2)
  ((valueIn? environment name).or (valueIn? s.file.entries name)).map (name, ·)

/-- The value that a setting is given, and the name under which it is. -/
def find? (s : Sources) (name : String) : Option (String × Document) :=
  match (s.argument? (longName name)).or (s.argument? name) with
  | some d => some (s.argumentName name, d)
  | none => (s.outside? (longName name)).or (s.outside? name)

/-- Reads a setting that has a default. -/
def setting {α : Type} (s : Sources) (name : String) (default : α)
    (read : Document → Checked α) : Checked α :=
  match s.find? name with
  | none => .accepted default
  | some (given, d) => (read d).within (.field given)

end Sources

/-! ## Checks of single settings -/

/-- Accepts the name of a level. -/
def checkLogLevel (word : String) : Checked LogLevel :=
  (LogLevel.ofWord? word).elim (.fail (.rejected (.logLevel word))) .accepted

/-- Accepts a chance that is neither zero nor one. -/
def checkDamping (d : Float) : Checked Float :=
  if 0 < d ∧ d < 1 then .accepted d else .fail (.rejected (.damping d))

/-- Accepts a number of at least one. -/
def checkCount (n : Int) : Checked Int :=
  if n < 1 then .fail (.rejected (.count n)) else .accepted n

/-- Accepts a tolerance unless it is at most zero. -/
def checkTolerance (t : Float) : Checked Float :=
  if t ≤ 0 then .fail (.rejected (.tolerance t)) else .accepted t

/-! ## Reading -/

open Document

/-- The settings that some sources give. -/
def ofSources (s : Sources) : Checked Settings :=
  mk <$> s.setting "log_level" .info (fun d => d.asText.andThen checkLogLevel)
    <*> s.setting "environment" "development" asText
    <*> (Policy.mk <$> s.setting "cascade_deletes" true asBool
      <*> s.setting "allow_self_loops" true asBool)
    <*> s.setting "pagerank_damping" 0.85 (fun d => d.asFloat.andThen checkDamping)
    <*> s.setting "pagerank_max_iterations" 100 (fun d => d.asInt.andThen checkCount)
    <*> s.setting "pagerank_tolerance" 0.000001 (fun d => d.asFloat.andThen checkTolerance)
    <*> s.setting "max_batch_lines" 10000 (fun d => d.asInt.andThen checkCount)

/-- How a walk goes on unless a caller says otherwise. -/
def walkRules (s : Settings) : Analytics.WalkRules Float where
  damping := s.damping
  steps := s.maxIterations.toNat
  tolerance := s.tolerance

/-- The settings as a document. -/
def toDocument (s : Settings) : Document :=
  .map [("log_level", .text s.logLevel.name), ("environment", .text s.environment),
    ("cascade_deletes", .bool s.policy.cascadeDeletes),
    ("allow_self_loops", .bool s.policy.allowSelfLoops), ("pagerank_damping", .float s.damping),
    ("pagerank_max_iterations", .int s.maxIterations), ("pagerank_tolerance", .float s.tolerance),
    ("max_batch_lines", .int s.batchLimit)]

end Settings

end PropertyGraph
