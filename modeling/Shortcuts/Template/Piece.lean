/-!
Texts with slots. A slot is an opening mark, an inner text that is not empty and a closing
character that the inner text does not contain. `pieces` scans a text from left to right, each
slot starting at the first place where one fits; joined again, the pieces are the text.
-/
namespace Shortcuts.Template

structure Marks where
  opening : List Char
  closing : Char

/-- `<name>` -/
def angle : Marks := ⟨['<'], '>'⟩

/-- The short notation of slots, a percent sign and a name in braces. -/
def short : Marks := ⟨['\x7b', '%'], '\x7d'⟩

inductive Piece where
  | char (c : Char)
  | slot (inner : List Char)
  deriving DecidableEq, Repr

def Marks.text (m : Marks) (inner : List Char) : List Char := m.opening ++ inner ++ [m.closing]

def Piece.text (m : Marks) : Piece → List Char
  | .char c => [c]
  | .slot inner => m.text inner

/-- The inner text of a slot that starts here. -/
def Marks.slot? (m : Marks) (text : List Char) : Option (List Char) :=
  if m.opening.isPrefixOf text then
    let behind := text.drop m.opening.length
    let inner := behind.takeWhile (· ≠ m.closing)
    if inner.isEmpty || (behind.dropWhile (· ≠ m.closing)).isEmpty then none else some inner
  else none

/-- The first `skip` characters belong to the slot before. -/
def piecesFrom (m : Marks) : (skip : Nat) → List Char → List Piece
  | _, [] => []
  | skip + 1, _ :: rest => piecesFrom m skip rest
  | 0, c :: rest =>
    match m.slot? (c :: rest) with
    | some inner => .slot inner :: piecesFrom m ((m.text inner).length - 1) rest
    | none => .char c :: piecesFrom m 0 rest

def pieces (m : Marks) (text : List Char) : List Piece := piecesFrom m 0 text

/-- Writes the slots of a text in other marks. -/
def rewriteSlots (old new : Marks) (text : List Char) : List Char :=
  (pieces old text).flatMap (Piece.text new)

/-- The full notation of a template in short notation. -/
def ofShort (template : String) : String :=
  String.ofList (rewriteSlots short angle template.toList)

end Shortcuts.Template
