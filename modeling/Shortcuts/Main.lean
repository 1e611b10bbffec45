import Shortcuts.CommandLine.Run
import Shortcuts.Web.Client
import Std.Time

/-!
The command. What a run may look at is gathered first: the variables, the configuration, the
files of its namespaces and the browser. The run itself is a function of them and of the network.
It is repeated as long as it asks the network for something that has not been requested yet, so
that the same requests are sent in the same order as if they were sent on the way. No browser is
started.
-/
namespace Shortcuts.Command

open CommandLine

def cutVariable (text : List Char) : String × String :=
  (String.ofList (text.takeWhile (· ≠ '=')), String.ofList ((text.dropWhile (· ≠ '=')).drop 1))

def readVariables : IO PathVariables.Variables := do
  let bytes ← try IO.FS.readBinFile "/proc/self/environ" catch _ => pure ByteArray.empty
  match String.fromUTF8? bytes with
  | some text => return (Text.split '\x00' text.toList).map cutVariable
  | none => return []

def content (bytes : ByteArray) : Content :=
  match String.fromUTF8? bytes with
  | some text => .text text
  | none => .program

/-- The node at a path, if there is one. Every file is taken for executable. -/
def readNode (path : String) : IO (Option FileNode) := do
  try
    let found ← IO.FS.realPath path
    if ← found.isDir then return some .directory
    else return some (.file (content (← IO.FS.readBinFile found)) true)
  catch _ => return none

def gather (files : Files) (paths : List String) : IO Files :=
  paths.foldlM (fun files path => do
    match ← readNode path with
    | some node => return files.put (files.target path) node
    | none => return files) files

def filePath? : Source → Option String
  | .file _ path => some path
  | _ => none

/-- The paths that a run with this configuration may look at. -/
def pathsOf (vars : PathVariables.Variables) (c : Config) : List String :=
  c.namespaces.filterMap filePath? ++
    c.browser :: (searchPath vars).map (Path.join · c.browser)

/-- The interpreters of scripts among the files. -/
def interpreters (files : Files) : List String :=
  files.nodes.filterMap fun n =>
    match n.2 with
    | .file (.text script) _ => Files.interpreter? script
    | _ => none

def readClock : IO Template.Clock := do
  let now ← Std.Time.PlainDateTime.now
  return ⟨now.year.toInt, now.month.toInt.toNat, now.day.toInt.toNat, now.hour.toInt.toNat,
    now.minute.toInt.toNat⟩

/-- All that is outside of a run but the network. -/
def surroundings (o : Options) : IO Surroundings := do
  let vars ← readVariables
  let start : Files := ⟨Path.names (← IO.currentDir).toString.toList, []⟩
  let path := o.config.elim (Config.defaultPath vars).toOption some
  let files ← gather start path.toList
  let files ← match (Config.loadOptional files vars o.config).1 with
    | .ok c => do
      let files ← gather files (pathsOf vars c)
      gather files (interpreters files)
    | .error _ => pure files
  return ⟨⟨files, .down⟩, vars, ← readClock⟩

/-! ## Requests -/

/-- The answers to the requests that have been sent. -/
abbrev Answers := List (Web.Request × Except Web.RequestFault Web.Response)

def Answers.network (answers : Answers) : Web.Network := fun r =>
  (answers.lookup r).getD (Web.Network.down r)

/-- The first request without an answer. -/
def Answers.missing? (answers : Answers) (accesses : List Access) : Option Web.Request :=
  accesses.findSome? fun
    | .request r => if (answers.lookup r).isNone then some r else none
    | .read _ => none

/-- A run needs the bulk document, a document for each namespace and a page at most. -/
def mostRequests (s : Surroundings) (o : Options) : Nat :=
  match (Config.loadOptional s.world.files s.vars o.config).1 with
  | .ok c => c.namespaces.length + 2
  | .error _ => 0

/-- The run with all its requests answered. -/
def finish (s : Surroundings) (o : Options) (answers : Answers) : (requests : Nat) → IO Finish
  | 0 => return run { s with world := { s.world with network := answers.network } } o
  | requests + 1 => do
    let found := run { s with world := { s.world with network := answers.network } } o
    match answers.missing? found.accesses with
    | none => return found
    | some r => finish s o ((r, ← Web.Client.send r) :: answers) requests

def report (stop : Stop) : IO Unit :=
  match stop with
  | .help => IO.println stop.message
  | .version => IO.println versionText
  | stop => IO.eprintln ("error: " ++ stop.message)

end Shortcuts.Command

open Shortcuts in
def main (arguments : List String) : IO UInt32 := do
  match CommandLine.parse (← IO.getEnv "QXS_CONFIG") arguments with
  | .error stop =>
    Command.report stop
    return stop.exitCode.toUInt32
  | .ok o =>
    let surroundings ← Command.surroundings o
    let found ← Command.finish surroundings o [] (Command.mostRequests surroundings o)
    IO.print found.output
    IO.eprint (found.errors (surroundings.vars.lookup "RUST_LOG" = some "off") o)
    return found.exitCode.toUInt32
