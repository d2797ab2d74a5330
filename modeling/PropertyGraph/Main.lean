import PropertyGraph.Console.Program
import PropertyGraph.Digest
import Std.Time.DateTime.Timestamp

/-!
# The executable

The thin layer around the program: it gathers the arguments, the environment, the clock and random
bytes, runs the program, and prints what the program leaves.
-/

namespace PropertyGraph.Main

/-- The names under which a setting is looked up in the environment. -/
def variableNames : List String :=
  ["log_level", "environment", "cascade_deletes", "allow_self_loops", "pagerank_damping",
    "pagerank_max_iterations", "pagerank_tolerance", "max_batch_lines"].flatMap fun name =>
      let long := Settings.Sources.longName name
      [name, Text.upper name, Text.lower long, long]

/-- The variables of the environment that settings can be taken from. -/
def environment : IO (OrderedMap String String) := do
  let found ← variableNames.filterMapM fun name => do return (← IO.getEnv name).map (name, ·)
  return OrderedMap.ofList found

/-- The numbers and the words of the system for a file that cannot be read. -/
def fileFault (e : IO.Error) : Console.FileFault :=
  match e with
  | .noFileOrDirectory _ number reason | .inappropriateType _ number reason
  | .permissionDenied _ number reason | .invalidArgument _ number reason
  | .resourceExhausted _ number reason | .noSuchThing _ number reason =>
    ⟨number.toNat, reason⟩
  | other => ⟨0, toString other⟩

/-- The content of a file, if it can be read. -/
def contentOf (name : String) : IO (Except Console.FileFault String) := do
  try return .ok (← IO.FS.readFile name)
  catch e => return .error (fileFault e)

/-- The environment file of the working directory, if there is one. -/
def envFile : IO (Option String) := do
  match ← contentOf ".env" with
  | .ok text => return some text
  | .error _ => return none

/-- What the program needs to find around it to run with some arguments. -/
def surroundings (args : List String) : IO Console.Surroundings := do
  let file := (Console.Request.ofArguments args).toOption.bind fun r => r.operands.file
  let content ← match file with
    | some name =>
      if name = Console.inputName then pure (.ok "") else contentOf name
    | none => pure (.ok "")
  let input ← if file.all (· == Console.inputName) then (← IO.getStdin).readToEnd else pure ""
  return { environment := ← environment, envFile := ← envFile, input, fileAt := fun _ => content }

/-- Tokens made from random bytes, and the present time. -/
def supply : IO Supply := do
  let seed ← IO.getRandomBytes 16
  let now ← Std.Time.Timestamp.now
  let micros := now.toNanosecondsSinceUnixEpoch.toInt / 1000
  let fresh := fun (n : Nat) => ((Digest.hex (seed ++ (toString n).toUTF8)).take 32).toString
  return { tokens := ⟨[], fresh, 0⟩, clock := .still micros }

/-- What is told when the program breaks off. -/
def breakdownLines : Console.Breakdown → List String
  | .settings vs => vs.map fun v =>
    let place := v.place.map fun
      | .field name => name
      | .index i => toString i
    let text := match v.problem with
      | .rejected reason => reason.message
      | problem => problem.name
    ".".intercalate place ++ ": " ++ text
  | .logLevel word => [(Rejection.logLevel word).message]
  | .fileName => [Console.fileNameMessage]
  | .longNumeral n => [n.message]
  | .output fault => [fault.message]

end PropertyGraph.Main

/-- Runs the program on the command line. -/
def main (args : List String) : IO UInt32 := do
  let around ← PropertyGraph.Main.surroundings args
  match PropertyGraph.Console.run args around (← PropertyGraph.Main.supply) with
  | .ok report =>
    IO.print report.output
    report.complaints.forM fun line => IO.eprintln line
    return report.exitCode.toUInt32
  | .error breakdown =>
    (PropertyGraph.Main.breakdownLines breakdown).forM fun line => IO.eprintln line
    return 1
