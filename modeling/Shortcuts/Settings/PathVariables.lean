import Shortcuts.Text.Lowercase
import Shortcuts.Text.WordData

/-!
Variables in paths. `$NAME` and `${NAME}` stand for the value of a variable, `${NAME:-default}`
for the default if there is none, and two dollar signs for one. A tilde that the path itself
starts with, alone or in front of a slash, is the home directory.
-/
namespace Shortcuts.PathVariables

/-- Variables with their values, the first of a name being in force. -/
abbrev Variables := List (String × String)

def isNameChar (c : Char) : Bool := Text.inRanges Text.wordRanges c || c = '_'

/-- The name and, behind the first colon with a hyphen, the default in a pair of braces. A name
that is empty has no default. -/
def cutDefault (inner : List Char) : List Char × Option (List Char) :=
  match go inner with
  | some ([], _) | none => (inner, none)
  | some (name, value) => (name, some value)
where
  go : List Char → Option (List Char × List Char)
    | [] => none
    | ':' :: '-' :: rest => some ([], rest)
    | c :: rest => (go rest).map fun (name, value) => (c :: name, value)

/-- What a dollar sign stands for, and how many of the characters behind it belong to it; or
the name of a variable that is not set. -/
def valueAt (vars : Variables) (behind : List Char) : Except String (List Char × Nat) :=
  let value? (name : List Char) : Option String := vars.lookup (String.ofList name)
  match behind with
  | '\x7b' :: braced =>
    let inner := braced.takeWhile (· ≠ '\x7d')
    if inner.length = braced.length then .ok (['$', '\x7b'], 1)
    else
      let (name, default) := cutDefault inner
      match value? name, default with
      | some value, _ => .ok (value.toList, inner.length + 2)
      | none, some default => .ok (default, inner.length + 2)
      | none, none => .error (String.ofList name)
  | '$' :: _ => .ok (['$'], 1)
  | behind =>
    let name := behind.takeWhile isNameChar
    if name.isEmpty then .ok (['$'], 0)
    else match value? name with
      | some value => .ok (value.toList, name.length)
      | none => .error (String.ofList name)

/-- The text with its variables replaced, or the name of one that is not set. The first `skip`
characters belong to the variable before. -/
def replaceFrom (vars : Variables) : (skip : Nat) → List Char →
    Except String (List Char)
  | _, [] => .ok []
  | skip + 1, _ :: rest => replaceFrom vars skip rest
  | 0, c :: rest =>
    if c ≠ '$' then (replaceFrom vars 0 rest).map (c :: ·)
    else match valueAt vars rest with
      | .error name => .error name
      | .ok (value, skip) => (replaceFrom vars skip rest).map (value ++ ·)

def home? (vars : Variables) : Option String :=
  (vars.lookup "HOME").filter (!·.isEmpty)

def replaceHome (vars : Variables) (path : List Char) : List Char :=
  match path, home? vars with
  | ['~'], some home => home.toList
  | '~' :: '/' :: rest, some home => home.toList ++ '/' :: rest
  | path, _ => path

/-- The path with variables and home directory replaced, or the name of a variable that is not
set. -/
def expand (vars : Variables) (path : String) : Except String String :=
  (replaceFrom vars 0 path.toList).map fun replaced =>
    if path.toList.head? ≠ some '~' ∧ replaced.head? = some '~' then String.ofList replaced
    else String.ofList (replaceHome vars replaced)

end Shortcuts.PathVariables
