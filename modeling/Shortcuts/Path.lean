import Shortcuts.Text.Pieces

/-!
Paths of files as text. Two paths are the same if they have the same parts: repeated and trailing
slashes do not count, nor does a single dot unless the path starts with it.
-/
namespace Shortcuts.Path

def isAbsolute (path : String) : Bool := path.toList.head? = some '/'

/-- The pieces between slashes, without empty ones and single dots. -/
def names (path : List Char) : List (List Char) :=
  (Text.split '/' path).filter fun name => !name.isEmpty && name ≠ ['.']

/-- A leading slash or single dot is a part of its own. -/
def root (path : List Char) : List (List Char) :=
  match path with
  | '/' :: _ => [['/']]
  | ['.'] => [['.']]
  | '.' :: '/' :: _ => [['.']]
  | _ => []

def parts (path : String) : List (List Char) := root path.toList ++ names path.toList

def same (a b : String) : Bool := parts a = parts b

/-- Cuts off what the parts of a path do not need at its end: slashes and single dots behind
another part. The path is given with the last character first. -/
def trimEnd : List Char → List Char
  | [] => []
  | ['/'] => ['/']
  | '/' :: rest => trimEnd rest
  | ['.', '/'] => ['/']
  | '.' :: '/' :: rest => trimEnd rest
  | path => path

/-- The directory that a path lies in; the empty path and the root lie in none. -/
def parent? (path : String) : Option String :=
  if path.toList = [] ∨ (parts path) = [['/']] then none
  else
    let trimmed := trimEnd path.toList.reverse
    some (String.ofList (trimEnd (trimmed.dropWhile (· ≠ '/'))).reverse)

/-- A path as seen from a directory. -/
def join (directory path : String) : String :=
  if isAbsolute path then path
  else if directory.isEmpty || directory.toList.getLast? = some '/' then directory ++ path
  else directory ++ "/" ++ path

end Shortcuts.Path
