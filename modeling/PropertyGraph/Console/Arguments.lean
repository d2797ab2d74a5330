import PropertyGraph.Command.Literal

/-!
# Command-line arguments

A command line is a list of arguments: options, a command, and what the command takes. Arguments are
first sorted into options and words; a long option may be shortened as long as it stays unambiguous,
and its value may be attached after an equals sign. After a lone double dash everything is a word.
A negative number and an argument with a space in it are words too. The outcome is a request, or
the wish for help, or a misuse.
-/

namespace PropertyGraph.Console

open Text

/-! ## Sorting arguments -/

/-- An option as it is written in full, and whether a value follows it. -/
structure Switch where
  name : String
  takesValue : Bool
deriving DecidableEq

/-- What an argument is. A cluster is the short option for help with more letters after it. -/
inductive Token where
  | word (text : String)
  | separator
  | option (switch : Switch) (attached : Option String)
  | cluster (letters : List Char)
  | unknownOption
deriving DecidableEq

/-- Why a command line is not a request. -/
inductive Stop where
  | help
  | misuse
deriving DecidableEq

def helpSwitches : List Switch := [⟨"-h", false⟩, ⟨"--help", false⟩]

/-- An argument up to its first equals sign, and what is attached after it. -/
def splitAttached (arg : List Char) : List Char × Option (List Char) :=
  match arg.span (· != '=') with
  | (name, _ :: value) => (name, some value)
  | (name, []) => (name, none)

/-- Whether an argument is a negative number. -/
def isNegativeNumber (arg : List Char) : Bool :=
  match arg with
  | '-' :: body =>
    match (Literal.dropLineBreak body).span (· != '.') with
    | (ones, []) => ones != [] && ones.all isDigit
    | (ones, _ :: places) => ones.all isDigit && places != [] && places.all isDigit
  | _ => false

/-- The option with a name. -/
def inFull? (switches : List Switch) (name : List Char) (attached : Option (List Char)) :
    Option Token :=
  (switches.find? fun s => s.name.toList = name).map fun s =>
    .option s (attached.map String.ofList)

/--
The options an argument may be short for: those whose name it starts, or for a single dash the one
that it starts with.
-/
def shortFor (switches : List Switch) (arg : List Char) : List Token :=
  if "--".toList.isPrefixOf arg then
    let (name, attached) := splitAttached arg
    (switches.filter fun s => name.isPrefixOf s.name.toList).map fun s =>
      .option s (attached.map String.ofList)
  else if "-h".toList.isPrefixOf arg then [.cluster (arg.drop 2)]
  else []

/-- What an argument that starts with a dash and is no option in full stands for. -/
def classifyShort (switches : List Switch) (arg : List Char) : Except Stop Token :=
  match shortFor switches arg with
  | _ :: _ :: _ => .error .misuse
  | [token] => .ok token
  | [] =>
    if isNegativeNumber arg || arg.contains ' ' then .ok (.word (String.ofList arg))
    else .ok .unknownOption

/-- What an argument other than the lone double dash is. -/
def classify (switches : List Switch) (arg : List Char) : Except Stop Token :=
  if arg.head? ≠ some '-' then .ok (.word (String.ofList arg))
  else
    match inFull? switches arg none with
    | some token => .ok token
    | none =>
      if arg.length = 1 then .ok (.word (String.ofList arg))
      else
        match splitAttached arg with
        | (name, some value) =>
          (inFull? switches name (some value)).elim (classifyShort switches arg) .ok
        | (_, none) => classifyShort switches arg

/-- What each of the arguments is. -/
def classifyAll (switches : List Switch) : List String → Except Stop (List Token)
  | [] => .ok []
  | arg :: args =>
    if arg = "--" then .ok (.separator :: args.map .word)
    else do return (← classify switches arg.toList) :: (← classifyAll switches args)

/-! ## Options -/

/-- What comes of a cluster, whose every letter has to ask for help. -/
def clusterStop (letters : List Char) : Stop :=
  if letters.all (· == 'h') then .help else .misuse

/--
What comes of an option that asks for help. Nothing can be attached to it, but after the short one
what is attached makes a cluster.
-/
def helpStop (switch : Switch) (attached : Option String) : Stop :=
  match attached with
  | none => .help
  | some value =>
    if switch.name = "-h" ∧ value ≠ "" then clusterStop value.toList else .misuse

/-- The value attached to an option, where a double dash takes back what was given before. -/
def attachedValue (value : String) : Option String := if value = "--" then none else some value

/-! ## Commands -/

/-- What a command takes: a file, and for a ranking the number of its entries. -/
structure Operands where
  file : Option String
  top : Option Int
deriving DecidableEq

/-- What has been read of a command's arguments. -/
structure Progress where
  operands : Operands
  isFilled : Bool
  hasSurplus : Bool

def Progress.start : Progress := ⟨⟨none, none⟩, false, false⟩

/-- What has been read after a file, or after a separator without one. -/
def Progress.fill (p : Progress) (file : Option String) : Progress :=
  { p with operands := { p.operands with file }, isFilled := true }

/-- What has been read after an argument that there is no place for. -/
def Progress.exceed (p : Progress) : Progress := { p with hasSurplus := true }

/-- What has been read after the number of entries of a ranking, which has to be an integer. -/
def Progress.limit (p : Progress) (value : Option String) : Except Stop Progress :=
  match value with
  | none => .ok { p with operands := { p.operands with top := none } }
  | some v =>
    match Decimal.argument? v.toList with
    | none => .error .misuse
    | some top => .ok { p with operands := { p.operands with top := some top } }

/--
Reads the arguments of a command. The first word is the file; a separator may stand on one side of
it. The only option that takes a value is the one for the length of rankings.
-/
def readOperands (p : Progress) (tokens : List Token) : Except Stop Progress :=
  match tokens with
  | [] => .ok p
  | .unknownOption :: rest => readOperands p.exceed rest
  | .cluster letters :: _ => .error (clusterStop letters)
  | .word w :: rest =>
    if p.isFilled then readOperands p.exceed rest
    else
      match rest with
      | .separator :: rest => readOperands (p.fill (some w)) rest
      | rest => readOperands (p.fill (some w)) rest
  | .separator :: rest =>
    if p.isFilled then readOperands p.exceed rest
    else
      match rest with
      | .word w :: rest => readOperands (p.fill (some w)) rest
      | rest => readOperands (p.fill none) rest
  | .option switch attached :: rest =>
    if !switch.takesValue then .error (helpStop switch attached)
    else
      match attached, rest with
      | some value, rest => do readOperands (← p.limit (attachedValue value)) rest
      | none, .word value :: rest => do readOperands (← p.limit (some value)) rest
      | none, _ => .error .misuse
termination_by tokens.length
decreasing_by all_goals simp only [List.length_cons]; omega

/-- What the program can be asked to do. -/
inductive Task where
  | run
  | analyze
deriving DecidableEq

def Task.ofWord? (word : String) : Option Task :=
  if word = "run" then some run else if word = "analyze" then some analyze else none

/-- The options of a task. -/
def Task.switches : Task → List Switch
  | run => helpSwitches
  | analyze => helpSwitches ++ [⟨"--top-k", true⟩]

/-- What the program is asked to do. -/
structure Request where
  logLevel : Option String
  task : Task
  operands : Operands
deriving DecidableEq

def programSwitches : List Switch := helpSwitches ++ [⟨"--log-level", true⟩]

/-- Reads the arguments from the task on. -/
def readTask (logLevel : Option String) (hasSurplus : Bool) (word : String)
    (args : List String) : Except Stop Request :=
  match Task.ofWord? word with
  | none => .error .misuse
  | some task => do
    let p ← readOperands .start (← classifyAll task.switches args)
    if hasSurplus || p.hasSurplus then .error .misuse
    else return { logLevel, task, operands := p.operands }

/--
Reads all arguments, given together with what they are. What follows the task is sorted anew, by
the options of the task.
-/
def readProgram (logLevel : Option String) (hasSurplus : Bool) :
    List (String × Token) → Except Stop Request
  | [] => .error .misuse
  | (_, .separator) :: _ => .error .misuse
  | (_, .unknownOption) :: rest => readProgram logLevel true rest
  | (_, .cluster letters) :: _ => .error (clusterStop letters)
  | (_, .word w) :: rest => readTask logLevel hasSurplus w (rest.map Prod.fst)
  | (_, .option switch attached) :: rest =>
    if !switch.takesValue then .error (helpStop switch attached)
    else
      match attached, rest with
      | some value, rest => readProgram (attachedValue value) hasSurplus rest
      | none, (_, .word value) :: rest => readProgram (some value) hasSurplus rest
      | none, _ => .error .misuse

/-- The request that a command line makes. -/
def Request.ofArguments (args : List String) : Except Stop Request := do
  readProgram none false (args.zip (← classifyAll programSwitches args))

end PropertyGraph.Console
