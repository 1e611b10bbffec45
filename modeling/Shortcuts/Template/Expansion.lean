import Shortcuts.Template.Placeholder
import Shortcuts.Template.Variable
import Shortcuts.Text.Percent

/-!
Filling templates. The variables of a URL template are resolved first, from left to right and
whatever the arguments; its other slots then take the percent-encoded arguments by position, the
last one all that are left over, joined by commas. What was found for the placeholders is put in
by their places, from the first to the last; a slot without an argument stays as it is. The
template of a replacement query takes exactly one argument for each slot, unchanged.
-/
namespace Shortcuts.Template

/-! ## Splicing -/

/-- The text behind a number of bytes, if a character ends there. -/
def dropBytes? : Nat → List Char → Option (List Char)
  | 0, text => some text
  | _ + 1, [] => none
  | n + 1, c :: rest => if c.utf8Size ≤ n + 1 then dropBytes? (n + 1 - c.utf8Size) rest else none

/-- The first bytes of a text, if a character ends with them. -/
def takeBytes? : Nat → List Char → Option (List Char)
  | 0, _ => some []
  | _ + 1, [] => none
  | n + 1, c :: rest =>
    if c.utf8Size ≤ n + 1 then (takeBytes? (n + 1 - c.utf8Size) rest).map (c :: ·) else none

/-- The text between two places in bytes. There is none if a place is inside of a character or
behind the end, or if the second is in front of the first. -/
def slice? (text : List Char) (start stop : Nat) : Option (List Char) :=
  if start ≤ stop then (dropBytes? start text).bind (takeBytes? (stop - start)) else none

/-- A placeholder and the text that takes its place. -/
structure Substitute where
  slot : Placeholder
  value : List Char
  deriving DecidableEq, Repr

/-- Copies a text from the cursor on, but for the places of the slots. -/
def spliceFrom? (text : List Char) : (cursor : Nat) → List Substitute → Option (List Char)
  | cursor, [] => slice? text cursor (byteLength text)
  | cursor, s :: rest => do
    let copied ← slice? text cursor s.slot.start
    let behind ← spliceFrom? text s.slot.stop rest
    return copied ++ s.value ++ behind

/-- Puts in the substitutes one behind the other. Those in front must end before the next start. -/
def splice? (text : List Char) (substitutes : List Substitute) : Option (List Char) :=
  spliceFrom? text 0 substitutes

def insertByPlace (s : Substitute) : List Substitute → List Substitute
  | [] => [s]
  | t :: rest => if s.slot.start ≤ t.slot.start then s :: t :: rest else t :: insertByPlace s rest

/-- The substitutes by their places. Of two at one place the first stays in front. -/
def byPlace (substitutes : List Substitute) : List Substitute := substitutes.foldr insertByPlace []

/-! ## URL templates -/

/-- Fails with the first variable that has no value. -/
def Setting.resolve (s : Setting) : List Placeholder → Except Failure (List Substitute)
  | [] => .ok []
  | p :: rest =>
    match s.value (String.ofList p.pattern) with
    | .error f => .error f
    | .ok value => (s.resolve rest).map (⟨p, value.toList⟩ :: ·)

/-- Joins the arguments that have no slot of their own into the last slot. -/
def foldSurplus (slots : Nat) (arguments : List (List Char)) : List (List Char) :=
  if slots = 0 ∨ arguments.length ≤ slots then arguments
  else arguments.take (slots - 1) ++ [Text.join [','] (arguments.drop (slots - 1))]

/-- The texts for the slots of a template with this many of them. -/
def slotValues (slots : Nat) (arguments : List String) : List (List Char) :=
  (foldSurplus slots (arguments.map String.toList)).map Percent.encode

/-- The variables with their values, followed by the argument slots for which there is a text. -/
def Setting.substitutes (s : Setting) (template : List Char) (arguments : List String) :
    Except Failure (List Substitute) := do
  let all := placeholders template
  let resolved ← s.resolve (all.filter Placeholder.isVariable)
  let slots := all.filter (!·.isVariable)
  return resolved ++ slots.zipWith Substitute.mk (slotValues slots.length arguments)

/-- Placeholders stand where a text can be cut, so the splice is always there. -/
def Setting.expand (s : Setting) (template : String) (arguments : List String) :
    Except Failure String :=
  (s.substitutes template.toList arguments).map fun found =>
    String.ofList ((splice? template.toList (byPlace found)).getD [])

/-! ## Replacement queries -/

def fillQuery (template : String) (arguments : List String) : Except Failure String :=
  let slots := placeholders template.toList
  if slots.length = arguments.length then
    let substitutes := slots.zipWith Substitute.mk (arguments.map String.toList)
    .ok (String.ofList ((splice? template.toList substitutes).getD []))
  else .error (.alternativeArgumentMismatch slots.length arguments.length)

end Shortcuts.Template
