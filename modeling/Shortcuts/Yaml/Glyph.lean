/-!
The characters of a YAML text with their places. Line ends of every kind become one glyph each
and the text is closed by a mark of its own, so that later stages walk over a plain list.
-/
namespace Shortcuts.Yaml

structure Glyph where
  char : Char
  index : Nat
  line : Nat
  column : Nat

/-- Stands behind the last character; the text itself never holds it. -/
def endMark : Char := '\x00'

namespace Glyph

def isEnd (g : Glyph) : Bool := g.char = endMark

/-- A line end; carriage returns and the next-line character have become line feeds. -/
def isBreak (g : Glyph) : Bool :=
  g.char = '\n' || g.char = '\u2028' || g.char = '\u2029'

def isBlank (g : Glyph) : Bool := g.char = ' ' || g.char = '\t'

def isBreakOrEnd (g : Glyph) : Bool := g.isBreak || g.isEnd

def isSpace (g : Glyph) : Bool := g.isBlank || g.isBreakOrEnd

end Glyph

/-- The characters a text may hold. -/
def isPermitted (c : Char) : Bool :=
  let n := c.toNat
  n = 0x9 || n = 0xA || n = 0xD || (0x20 ≤ n && n ≤ 0x7E) || n = 0x85 ||
    (0xA0 ≤ n && n ≤ 0xFFFD) || 0x10000 ≤ n

def glyphsFrom (index line column : Nat) : List Char → List Glyph
  | [] => [⟨endMark, index, line, column⟩]
  | '\r' :: '\n' :: rest => ⟨'\n', index, line, column⟩ :: glyphsFrom (index + 2) (line + 1) 0 rest
  | c :: rest =>
    if c = '\n' || c = '\r' || c = '\u0085' then
      ⟨'\n', index, line, column⟩ :: glyphsFrom (index + 1) (line + 1) 0 rest
    else if c = '\u2028' || c = '\u2029' then
      ⟨c, index, line, column⟩ :: glyphsFrom (index + 1) (line + 1) 0 rest
    else ⟨c, index, line, column⟩ :: glyphsFrom (index + 1) line (column + 1) rest

def byteOrderMark : Char := '\ufeff'

/-- A byte order mark in front of the text is no part of it. -/
def glyphs (text : List Char) : Option (List Glyph) :=
  let text := match text with
    | c :: rest => if c = byteOrderMark then rest else text
    | [] => []
  if text.all isPermitted then some (glyphsFrom 0 0 0 text) else none

/-- Whether the next character, if any, ends a word. -/
def spaceNext : List Glyph → Bool
  | g :: _ => g.isSpace
  | [] => true

def charNext (c : Char) : List Glyph → Bool
  | g :: _ => g.char = c
  | [] => false

/-- Three equal marks at the start of a line with nothing attached. -/
def isDocumentMark (mark : Char) : List Glyph → Bool
  | a :: b :: c :: rest =>
    a.column = 0 && a.char = mark && b.char = mark && c.char = mark && spaceNext rest
  | _ => false

def atDocumentMark (input : List Glyph) : Bool :=
  isDocumentMark '-' input || isDocumentMark '.' input

end Shortcuts.Yaml
