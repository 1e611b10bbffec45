import Shortcuts.Json.Basic
import Shortcuts.Toml.Value

/-!
TOML documents. Pairs of a key and a value belong to the table of the header above them. `parse`
reads a text as a table; `json?` gives its values as JSON, dates and times as an object of one
member.
-/
namespace Shortcuts.Toml

structure Document where
  root : Fields
  /-- The keys of the table that pairs go into. -/
  header : List String

namespace Document

def pair (d : Document) (cs : List Char) : Option (Document × List Char) := do
  let (path, rest) ← dottedKey (cs.length + 1) cs
  match rest with
  | '=' :: rest =>
    let rest := skipBlanks rest
    let (x, rest) ← value (2 * rest.length + 2) rest
    let root ← Fields.within (Fields.put x (path.getLastD "") path.dropLast) d.header d.root
    some (⟨root, d.header⟩, rest)
  | _ => none

/-- A header in single or double brackets. -/
def open? (d : Document) (cs : List Char) : Option (Document × List Char) := do
  match cs with
  | '[' :: '[' :: rest =>
    let (path, rest) ← dottedKey (rest.length + 1) rest
    match rest with
    | ']' :: ']' :: rest =>
      let root ← Fields.under (Fields.append (path.getLastD "")) path.dropLast d.root
      some (⟨root, path⟩, rest)
    | _ => none
  | '[' :: rest =>
    let (path, rest) ← dottedKey (rest.length + 1) rest
    match rest with
    | ']' :: rest =>
      let root ← Fields.under (Fields.define (path.getLastD "")) path.dropLast d.root
      some (⟨root, path⟩, rest)
    | _ => none
  | _ => none

def line (d : Document) (cs : List Char) : Option (Document × List Char) :=
  match skipBlanks cs with
  | [] => some (d, [])
  | '[' :: rest => d.open? ('[' :: rest)
  | c :: rest =>
    if c = '#' || (lineEnd? (c :: rest)).isSome then some (d, c :: rest) else d.pair (c :: rest)

/-- Line by line; `fuel` bounds the number of lines. -/
def lines : (fuel : Nat) → Document → List Char → Option Document
  | 0, _, _ => none
  | fuel + 1, d, cs =>
    if cs.isEmpty then some d
    else do
      let (d, rest) ← d.line cs
      lines fuel d (← finishLine rest)

end Document

def byteOrderMark : Char := '\ufeff'

def parse (text : String) : Option (List (String × Value)) :=
  let cs := match text.toList with
    | c :: rest => if c = byteOrderMark then rest else c :: rest
    | [] => []
  (Document.lines (cs.length + 1) ⟨[], []⟩ cs).map fun d => finishFields d.root

/-! ## JSON -/

/-- Integers beyond 64 bits are refused. -/
def Scalar.json? : Scalar → Option Json
  | .bool b => some (.bool b)
  | .integer n =>
    if -(Nat.pow 2 63) ≤ n ∧ n < Nat.pow 2 64 then some (.number (.integer n)) else none
  | .float x => some (.number (.float x))
  | .moment s => some (.object [("$__toml_private_datetime", .string s)])

mutual

def Value.json? : Value → Option Json
  | .scalar s => s.json?
  | .text s => some (.string s)
  | .array items => (jsonItems? items).map .array
  | .table fields => (jsonFields? fields).map .object

def jsonItems? : List Value → Option (List Json)
  | [] => some []
  | x :: rest =>
    match x.json?, jsonItems? rest with
    | some j, some js => some (j :: js)
    | _, _ => none

def jsonFields? : List (String × Value) → Option (List (String × Json))
  | [] => some []
  | (name, x) :: rest =>
    match x.json?, jsonFields? rest with
    | some j, some js => some ((name, j) :: js)
    | _, _ => none

end

end Shortcuts.Toml
