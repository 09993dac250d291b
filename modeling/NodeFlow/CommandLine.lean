import NodeFlow.Path
import NodeFlow.Preset
import NodeFlow.Run
import NodeFlow.Settings
import NodeFlow.Snapshot.Export
import NodeFlow.Snapshot.Import
import NodeFlow.Text.Terminal
import NodeFlow.Text.Utf8

/-!
# The command line

Three commands: `kinds` lists the node kinds, `example` runs or saves a preset, `run` runs a
snapshot file. This module reads the arguments and says what a command prints, writes and returns;
looking at files and printing are left to the caller.
-/

namespace NodeFlow

/-! ## Arguments -/

/-- The options of a command. -/
structure Options where
  /-- The options that stand alone. -/
  flags : List String
  /-- The options that take a value. -/
  valued : List String

/-- Arguments split into options and the rest. -/
structure Arguments where
  flags : List String
  /-- The options with a value, in order. -/
  values : List (String × String)
  positional : List String

namespace Arguments

/-- No arguments. -/
def nothing : Arguments := ⟨[], [], []⟩

/-- Adds an argument in front. -/
def addPositional (argument : String) (later : Arguments) : Arguments :=
  { later with positional := argument :: later.positional }

/-- Adds a flag in front. -/
def addFlag (name : String) (later : Arguments) : Arguments :=
  { later with flags := name :: later.flags }

/-- Adds an option with a value in front. -/
def addValue (name value : String) (later : Arguments) : Arguments :=
  { later with values := (name, value) :: later.values }

/-- The value of an option; if it is given more than once the last value counts. -/
def value? (name : String) (arguments : Arguments) : Option String :=
  arguments.values.reverse.lookup name

/-- The options with a value and what counts for each, in the order of their first use. -/
def settled (arguments : Arguments) : List (String × String) :=
  (arguments.values.map (·.1)).eraseDups.filterMap fun name =>
    (arguments.value? name).map fun value => (name, value)

/-- Whether an argument looks like an option. -/
def isOption (argument : String) : Bool :=
  argument.startsWith "-" && argument.length > 1

/-- The name of an option, and the value behind its equals sign if it has one. -/
def splitOption (argument : String) : String × Option String :=
  let chars := argument.toList
  let name := String.ofList (chars.takeWhile (· != '='))
  match chars.dropWhile (· != '=') with
  | [] => (name, none)
  | _ :: value => (name, some (String.ofList value))

/-- Splits arguments; unknown options, a value for a flag and a missing value are mistakes. After
`--` nothing is an option. -/
def read? (options : Options) : List String → Option Arguments
  | [] => some nothing
  | "--" :: rest => some ⟨[], [], rest⟩
  | argument :: rest =>
    if !isOption argument then (read? options rest).map (addPositional argument)
    else
      let (name, value) := splitOption argument
      if options.flags.contains name then
        if value.isNone then (read? options rest).map (addFlag name) else none
      else if options.valued.contains name then
        match value, rest with
        | some value, rest => (read? options rest).map (addValue name value)
        | none, value :: rest => (read? options rest).map (addValue name value)
        | none, [] => none
      else none

end Arguments

/-! ## Commands -/

/-- A command. -/
inductive Command where
  | kinds
  | demo (preset : Preset) (save : Option String) (dump : Bool)
  | run (path : String) (dump : Bool) (maxSteps : Option Int)

/-- Why a command line is refused. -/
inductive Refusal where
  | usage
  /-- A path holds a null character. -/
  | nullCharacter
  deriving DecidableEq, Repr

namespace Command

/-- Reads a positive whole number. -/
def positive? (text : String) : Option Int :=
  (readInteger text).toOption.filter fun n => 0 < n

/-- What is wrong with the argument of a path on its own. -/
def checkPath (path : String) : Except Refusal Unit :=
  if path.toList.contains '\x00' then .error .nullCharacter else .ok ()

/-- What is wrong with the value of an option on its own. -/
def checkValue : String × String → Except Refusal Unit
  | ("--max-steps", text) => if (positive? text).isSome then .ok () else .error .usage
  | ("--preset", id) => if (Preset.find? id).isSome then .ok () else .error .usage
  | (_, path) => checkPath path

/-- Splits arguments and checks the values of the options in the order of their first use. -/
def readArguments (options : Options) (rest : List String) : Except Refusal Arguments :=
  match Arguments.read? options rest with
  | some arguments => do
    arguments.settled.forM checkValue
    return arguments
  | none => .error .usage

/-- Refuses arguments that are left over. -/
def checkEnd (rest : List String) : Except Refusal Unit :=
  if rest.isEmpty then .ok () else .error .usage

/-- Reads the arguments of `run`. -/
def readRun (rest : List String) : Except Refusal Command := do
  let arguments ← readArguments ⟨["--dump"], ["--max-steps"]⟩ rest
  match arguments.positional with
  | [] => throw .usage
  | path :: rest =>
    checkPath path
    checkEnd rest
    let maxSteps := (arguments.value? "--max-steps").bind positive?
    return .run path (arguments.flags.contains "--dump") maxSteps

/-- Reads the arguments of `example`. -/
def readExample (rest : List String) : Except Refusal Command := do
  let arguments ← readArguments ⟨["--dump"], ["--preset", "--save"]⟩ rest
  checkEnd arguments.positional
  let preset := ((arguments.value? "--preset").bind Preset.find?).getD Preset.vectorDemo
  return .demo preset (arguments.value? "--save") (arguments.flags.contains "--dump")

/-- Reads the arguments of `kinds`. -/
def readKinds (rest : List String) : Except Refusal Command := do
  let arguments ← readArguments ⟨[], []⟩ rest
  checkEnd arguments.positional
  return .kinds

/-- Reads a command and its arguments. -/
def readNamed : List String → Except Refusal Command
  | "run" :: rest => readRun rest
  | "example" :: rest => readExample rest
  | "kinds" :: rest => readKinds rest
  | _ => .error .usage

/-- Reads a whole command line; `--` may stand before the command. -/
def read : List String → Except Refusal Command
  | "--" :: rest => readNamed rest
  | arguments => readNamed arguments

/-- The file that a command reads or writes. -/
def path? : Command → Option String
  | .kinds => none
  | .demo _ save _ => save
  | .run path _ _ => some path

end Command

/-! ## Running commands -/

/-- An error that a command does not report but passes on. -/
inductive Crash where
  | conversion (cause : ConversionError)
  | encoding (fault : Text.Utf8Fault)
  | nullCharacter
  deriving DecidableEq, Repr

/-- The wording of such an error. -/
def Crash.message : Crash → String
  | conversion cause => cause.message
  | encoding fault => fault.message
  | nullCharacter => "embedded null byte"

/-- What a command does: the exit code, what it prints, the file it writes, and the error that it
passes on. -/
structure Outcome where
  exitCode : Nat
  stdout : String
  stderr : String
  written : Option (String × String)
  crash : Option Crash

/-- A message as it is printed: on lines of its own, outside terminals. -/
def echo (message : String) : String :=
  Text.withoutSequences message ++ "\n"

namespace Outcome

/-- A mistake in the arguments. -/
def usage : Outcome := ⟨2, "", "", none, none⟩

/-- What a refused command line comes to. -/
def refused : Refusal → Outcome
  | .usage => usage
  | .nullCharacter => ⟨1, "", "", none, some .nullCharacter⟩

/-- Printed lines and success. -/
def printed (stdout : String) : Outcome := ⟨0, stdout, "", none, none⟩

/-- Printed lines and a reported error. -/
def reported (stdout message : String) : Outcome :=
  ⟨1, stdout, echo ("Error: " ++ message), none, none⟩

/-- Printed lines and an error that is passed on. -/
def crashed (stdout : String) (crash : Crash) : Outcome := ⟨1, stdout, "", none, some crash⟩

/-- An error of a graph operation: failed conversions are passed on, all others reported. -/
def ofError (stdout : String) : Error → Outcome
  | .conversion cause => crashed stdout (.conversion cause)
  | error => reported stdout error.message

end Outcome

namespace Command

/-- Messages, printed one after the other. -/
def echoAll (messages : List String) : String :=
  String.join (messages.map echo)

/-- A text filled up with blanks to a width. -/
def pad (width : Nat) (text : String) : String :=
  text ++ String.ofList (List.replicate (width - text.length) ' ')

/-- The kinds with their descriptions. -/
def kindsText : String :=
  echoAll (Template.all.map fun template => pad 8 template.kind ++ " " ++ template.description)

/-- The data of all nodes but groups, by id. -/
def nodeData (graph : Graph) : Value :=
  .dict ((graph.nodes.filter fun node => !node.isGroup).map fun node => (node.id, .dict node.data))

/-- Runs a graph and prints its log, and its data if asked. -/
def runGraph (graph : Graph) (maxSteps : Int) (dump : Bool) : Outcome :=
  match graph.run .builtin maxSteps with
  | .error failure progress => .reported (echoAll progress.log.toList) failure.message
  | .ok _ progress =>
    let lines := echoAll progress.log.toList
    if !dump then .printed lines
    else
      match Json.print (nodeData progress.graph) with
      | .ok text => .printed (lines ++ echo text)
      | .error cause => .crashed lines (.conversion cause)

/-- Restores the graph of a file. -/
def loadFile (path : String) (text : String) : Edit Workspace Unit := do
  Workspace.restore (← Workspace.parse (Path.plain path) (String.ofList (Text.foldLineEnds text.toList)))

/-- Runs the snapshot in a file. -/
def runFile (path : String) (bytes : ByteArray) (maxSteps : Int) (dump : Bool) (ids : IdSource) :
    Outcome :=
  match Text.decodeUtf8 bytes with
  | .error fault => .crashed "" (.encoding fault)
  | .ok text =>
    match loadFile path text ⟨.empty, ids⟩ with
    | .ok _ loaded => runGraph loaded.graph maxSteps dump
    | .error error _ => .ofError "" error

/-- Why a file cannot be written, if so. -/
def writeFault? (path : String) : Target → Option String
  | .file _ | .vacant => none
  | .directory => some ("[Errno 21] Is a directory: " ++ Text.quote path)
  | .nowhere fault => some (fault.message ++ ": " ++ Text.quote path)

/-- Writes the snapshot of a preset's graph. -/
def saveGraph (preset : Preset) (path : String) (target : Target) (graph : Graph) : Outcome :=
  match graph.dump with
  | .error cause => .crashed "" (.conversion cause)
  | .ok text =>
    match writeFault? path target with
    | some fault => .reported "" fault
    | none =>
      { Outcome.printed (echo ("Saved " ++ preset.id ++ " to " ++ path)) with
        written := some (path, text) }

/-- Builds a preset and saves or runs it. -/
def runPreset (preset : Preset) (save : Option (String × Target)) (maxSteps : Int) (dump : Bool)
    (ids : IdSource) : Outcome :=
  match preset.build ⟨.empty, ids⟩ with
  | .error error _ => .ofError "" error
  | .ok _ built =>
    match save with
    | some (path, target) => saveGraph preset path target built.graph
    | none => runGraph built.graph maxSteps dump

/-- Carries a command out. `look` tells what a path leads to. A directory as given is no file to
write; otherwise the plain form of the path is written. -/
def execute (settings : Settings) (look : String → Target) (ids : IdSource) : Command → Outcome
  | .kinds => .printed kindsText
  | .run path dump maxSteps =>
    match look path with
    | .file bytes => runFile path bytes (maxSteps.getD settings.maxExecSteps) dump ids
    | _ => .usage
  | .demo preset none dump => runPreset preset none settings.maxExecSteps dump ids
  | .demo preset (some path) dump =>
    match look path with
    | .directory => .usage
    | _ =>
      runPreset preset (some (Path.plain path, look (Path.plain path))) settings.maxExecSteps dump ids

/-- Carries out a whole command line. -/
def perform (settings : Settings) (look : String → Target) (ids : IdSource) (arguments : List String) :
    Outcome :=
  match read arguments with
  | .ok command => command.execute settings look ids
  | .error refusal => .refused refusal

end Command

end NodeFlow
