import Shortcuts.Path

/-!
Files and directories by their places, which are the names on the way from the root. A path is
followed name by name; each place on the way must be a directory.
-/
namespace Shortcuts

inductive Content where
  | text (value : String)
  /-- Bytes that are no text. -/
  | bytes
  /-- A program that runs without an interpreter. -/
  | program
  deriving DecidableEq, Repr

inductive FileNode where
  | file (content : Content) (executable : Bool)
  | directory
  deriving DecidableEq, Repr

abbrev Place := List (List Char)

structure Files where
  workingDirectory : Place
  nodes : List (Place × FileNode)

inductive FileFault where
  | missing | notDirectory | isDirectory | denied | nameTooLong | containsNul | notText
  | notProgram
  deriving DecidableEq, Repr

def FileFault.message : FileFault → String
  | missing => "No such file or directory (os error 2)"
  | notDirectory => "Not a directory (os error 20)"
  | isDirectory => "Is a directory (os error 21)"
  | denied => "Permission denied (os error 13)"
  | nameTooLong => "File name too long (os error 36)"
  | containsNul => "file name contained an unexpected NUL byte"
  | notText => "stream did not contain valid UTF-8"
  | notProgram => "Exec format error (os error 8)"

namespace Files

/-- The node at a place. Whatever lies above a node is a directory. -/
def node? (f : Files) (place : Place) : Option FileNode :=
  match f.nodes.lookup place with
  | some node => some node
  | none =>
    if place.isEmpty || f.nodes.any fun n => place.isPrefixOf n.1 then some .directory else none

def step (f : Files) (place : Place) (name : List Char) : Except FileFault Place :=
  match f.node? place with
  | none => .error .missing
  | some (.file ..) => .error .notDirectory
  | some .directory =>
    if name.isEmpty || name = ['.'] then .ok place
    else if name = ['.', '.'] then .ok place.dropLast
    else if 255 < (String.ofList name).utf8ByteSize then .error .nameTooLong
    else .ok (place ++ [name])

/-- The place that a path leads to; there need not be anything. -/
def place (f : Files) (path : String) : Except FileFault Place :=
  if path.isEmpty then .error .missing
  else if path.toList.contains '\x00' then .error .containsNul
  else if 4095 < path.utf8ByteSize then .error .nameTooLong
  else
    let start := if Path.isAbsolute path then [] else f.workingDirectory
    (Text.split '/' path.toList).foldlM f.step start

def find (f : Files) (path : String) : Except FileFault FileNode := do
  match f.node? (← f.place path) with
  | some node => .ok node
  | none => .error .missing

def exists? (f : Files) (path : String) : Bool := (f.find path).isOk

def readText (f : Files) (path : String) : Except FileFault String := do
  match ← f.find path with
  | .file (.text value) _ => .ok value
  | .file .. => .error .notText
  | .directory => .error .isDirectory

/-! ## Changes -/

def put (f : Files) (place : Place) (node : FileNode) : Files :=
  { f with nodes := (place, node) :: f.nodes.filter (·.1 ≠ place) }

/-- The place of a path without going through the directories on the way. -/
def target (f : Files) (path : String) : Place :=
  (if Path.isAbsolute path then [] else f.workingDirectory) ++ Path.names path.toList

/-! ## Programs -/

def isProgram (f : Files) (path : String) : Bool :=
  match f.find path with
  | .ok (.file _ true) => true
  | _ => false

/-- The path of a program. A name without a slash is looked for in the given directories. -/
def which (f : Files) (directories : List String) (name : String) : Option String :=
  if name.isEmpty then none
  else if name.toList.contains '/' then if f.isProgram name then some name else none
  else (directories.map (Path.join · name)).find? f.isProgram

/-- The interpreter in the first line of a script. -/
def interpreter? (script : String) : Option String :=
  match script.toList with
  | '#' :: '!' :: rest =>
    let isBlank (c : Char) : Bool := c = ' ' || c = '\t'
    let name := (rest.dropWhile isBlank).takeWhile fun c => !isBlank c && c ≠ '\n'
    if name.isEmpty then none else some (String.ofList name)
  | _ => none

/-- Starts a program; there is nothing to see of its run. -/
def launch (f : Files) (path : String) : Except FileFault Unit := do
  match ← f.find path with
  | .file .program _ => .ok ()
  | .file (.text script) _ =>
    match interpreter? script with
    | none => .error .notProgram
    | some interpreter =>
      match ← f.find interpreter with
      | .file .program true => .ok ()
      | .file _ true => .error .notProgram
      | _ => .error .denied
  | .file .bytes _ => .error .notProgram
  | .directory => .error .denied

end Files

end Shortcuts
