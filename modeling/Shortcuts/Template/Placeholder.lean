import Shortcuts.Template.Piece

/-!
The placeholders of a URL template: its slots in angle brackets with their places. One whose
inner text starts with a dollar sign is a variable, any other is filled with an argument.
-/
namespace Shortcuts.Template

def isVariable (inner : List Char) : Bool := inner.head? = some '$'

structure Placeholder where
  inner : List Char
  /-- The place of the opening bracket in bytes of UTF-8. -/
  start : Nat
  deriving DecidableEq, Repr

def byteLength : List Char → Nat
  | [] => 0
  | c :: rest => c.utf8Size + byteLength rest

namespace Placeholder

def pattern (p : Placeholder) : List Char := angle.text p.inner

def stop (p : Placeholder) : Nat := p.start + byteLength p.pattern

def isVariable (p : Placeholder) : Bool := Template.isVariable p.inner

/-- The name of an argument; a variable has none. -/
def name? (p : Placeholder) : Option (List Char) :=
  if p.isVariable then none else some p.inner

end Placeholder

def placeholdersFrom (offset : Nat) : List Piece → List Placeholder
  | [] => []
  | .char c :: rest => placeholdersFrom (offset + c.utf8Size) rest
  | .slot inner :: rest =>
    ⟨inner, offset⟩ :: placeholdersFrom (offset + byteLength (angle.text inner)) rest

def placeholders (template : List Char) : List Placeholder :=
  placeholdersFrom 0 (pieces angle template)

def argumentNames (template : List Char) : List (List Char) :=
  (placeholders template).filterMap Placeholder.name?

end Shortcuts.Template
