import Shortcuts.Text.Digits
import Shortcuts.Yaml.Glyph

/-!
The three ways to write a scalar: plain, quoted and as a block. Each reader takes the glyphs from
where the scalar starts and returns its text and the glyphs behind it. Line ends inside plain and
quoted scalars are folded: one becomes a space, further ones are kept.
-/
namespace Shortcuts.Yaml

/-- White space that has been read but belongs to the scalar only if more text follows. The
lists hold the last character first. -/
structure Folding where
  spaces : List Char := []
  firstBreak : List Char := []
  moreBreaks : List Char := []
  broken : Bool := false

namespace Folding

def space (f : Folding) (c : Char) : Folding :=
  if f.broken then f else { f with spaces := c :: f.spaces }

def lineEnd (f : Folding) (c : Char) : Folding :=
  if f.broken then { f with moreBreaks := c :: f.moreBreaks }
  else { firstBreak := [c], broken := true }

/-- Puts the pending white space behind the text read so far. -/
def settle (f : Folding) (reversed : List Char) : List Char :=
  if f.broken then
    if f.firstBreak = ['\n'] then
      if f.moreBreaks.isEmpty then ' ' :: reversed else f.moreBreaks ++ reversed
    else f.moreBreaks ++ f.firstBreak ++ reversed
  else f.spaces ++ reversed

end Folding

/-! ## Plain scalars -/

structure PlainText where
  text : List Char
  /-- Whether a line end was passed behind the text. -/
  broken : Bool
  rest : List Glyph

def flowMarks : List Char := [',', '[', ']', '\x7b', '\x7d']

/-- `inFlow` tells whether brackets are open, `indent` is the least column of a further line. -/
def plainScalar (inFlow : Bool) (indent : Int) (afterSpace : Bool) (f : Folding)
    (reversed : List Char) : List Glyph → Option PlainText
  | [] => some ⟨reversed.reverse, f.broken, []⟩
  | g :: rest =>
    let finished := some ⟨reversed.reverse, f.broken, g :: rest⟩
    if g.isBlank then
      if f.broken && decide ((g.column : Int) < indent) && g.char = '\t' then none
      else plainScalar inFlow indent true (f.space g.char) reversed rest
    else if g.isBreak then plainScalar inFlow indent true (f.lineEnd g.char) reversed rest
    else if afterSpace && !inFlow && decide ((g.column : Int) < indent) then finished
    else if afterSpace && (atDocumentMark (g :: rest) || g.char = '#') then finished
    else if g.isEnd then finished
    else if inFlow && g.char = ':' &&
        (charNext '?' rest || flowMarks.any (charNext · rest)) then none
    else if (g.char = ':' && spaceNext rest) || (inFlow && flowMarks.contains g.char) then
      finished
    else plainScalar inFlow indent false {} (g.char :: f.settle reversed) rest

/-! ## Quoted scalars -/

inductive QuoteState where
  | within
  | quote
  | escape
  | code (left : Nat) (value : Nat)

def escaped : Char → Option Char
  | '0' => some '\x00'
  | 'a' => some '\x07'
  | 'b' => some '\x08'
  | 't' => some '\t'
  | '\t' => some '\t'
  | 'n' => some '\n'
  | 'v' => some '\x0b'
  | 'f' => some '\x0c'
  | 'r' => some '\r'
  | 'e' => some '\x1b'
  | ' ' => some ' '
  | '"' => some '"'
  | '/' => some '/'
  | '\\' => some '\\'
  | 'N' => some '\u0085'
  | '_' => some '\u00a0'
  | 'L' => some '\u2028'
  | 'P' => some '\u2029'
  | _ => none

def codeLength : Char → Option Nat
  | 'x' => some 2
  | 'u' => some 4
  | 'U' => some 8
  | _ => none

/-- From behind the opening quote; `single` tells which quote it was. -/
def quotedScalar (single : Bool) (state : QuoteState) (f : Folding) (reversed : List Char) :
    List Glyph → Option (List Char × List Glyph)
  | [] => none
  | g :: rest =>
    match state with
    | .quote =>
      if g.char = '\'' then quotedScalar single .within {} ('\'' :: reversed) rest
      else some (reversed.reverse, g :: rest)
    | .escape =>
      if g.isBreak then quotedScalar single .within { broken := true } reversed rest
      else match escaped g.char with
        | some c => quotedScalar single .within {} (c :: reversed) rest
        | none => match codeLength g.char with
          | some n => quotedScalar single (.code n 0) {} reversed rest
          | none => none
    | .code left value =>
      match Text.digit? g.char with
      | none => none
      | some h =>
        let value := 16 * value + h
        if 1 < left then quotedScalar single (.code (left - 1) value) {} reversed rest
        else if value.isValidChar then
          quotedScalar single .within {} (Char.ofNat value :: reversed) rest
        else none
    | .within =>
      if g.isBlank then quotedScalar single .within (f.space g.char) reversed rest
      else if g.isBreak then quotedScalar single .within (f.lineEnd g.char) reversed rest
      else if g.isEnd || atDocumentMark (g :: rest) then none
      else
        let reversed := f.settle reversed
        if single && g.char = '\'' then quotedScalar single .quote {} reversed rest
        else if !single && g.char = '"' then some (reversed.reverse, rest)
        else if !single && g.char = '\\' then quotedScalar single .escape {} reversed rest
        else quotedScalar single .within {} (g.char :: reversed) rest

/-! ## Block scalars -/

inductive Chomping where
  | strip | clip | keep
  deriving DecidableEq

def chomping? : Char → Option Chomping
  | '+' => some .keep
  | '-' => some .strip
  | _ => none

def increment? (c : Char) : Option Nat := Text.digitIn? 10 c

/-- The marks behind the block indicator, each at most once and in either order. An increment of
zero is refused. -/
def blockMarks (chomping : Option Chomping) (increment : Option Nat) :
    List Glyph → Option (Chomping × Nat × List Glyph)
  | [] => none
  | g :: rest =>
    match chomping, increment, chomping? g.char, increment? g.char with
    | none, _, some c, _ => blockMarks (some c) increment rest
    | _, none, _, some n => if n = 0 then none else blockMarks chomping (some n) rest
    | _, _, _, _ => some (chomping.getD .clip, increment.getD 0, g :: rest)

/-- Drops blanks and a comment up to the end of the line. -/
def restOfLine (comment : Bool) : List Glyph → Option (List Glyph)
  | [] => some []
  | g :: rest =>
    if g.isBreak then some rest
    else if g.isEnd then some (g :: rest)
    else if comment || g.char = '#' then restOfLine true rest
    else if g.isBlank then restOfLine false rest
    else none

/-- Empty lines in front of a block; the result starts with their greatest column. An `indent`
of zero is not known yet. -/
def emptyLines (indent : Nat) (widest : Nat) (reversed : List Char) :
    List Glyph → Option (Nat × List Char × List Glyph)
  | [] => some (widest, reversed, [])
  | g :: rest =>
    let inside := indent = 0 || decide (g.column < indent)
    if inside && g.char = ' ' then emptyLines indent widest reversed rest
    else if inside && g.char = '\t' then none
    else if g.isBreak then emptyLines indent (max widest g.column) (g.char :: reversed) rest
    else some (max widest g.column, reversed, g :: rest)

structure BlockText where
  reversed : List Char := []
  lastBreak : List Char := []
  emptyBreaks : List Char := []
  /-- Whether the line before started with a blank. -/
  indented : Bool := false
  inLine : Bool := false

/-- The text before the first glyph `g` of a further line. -/
def BlockText.startLine (b : BlockText) (literal : Bool) (g : Glyph) : BlockText :=
  let folds := !literal && b.lastBreak = ['\n'] && !b.indented && !g.isBlank
  let joined :=
    if folds then if b.emptyBreaks.isEmpty then ' ' :: b.reversed else b.reversed
    else b.lastBreak ++ b.reversed
  { reversed := g.char :: (b.emptyBreaks ++ joined), indented := g.isBlank, inLine := true }

def BlockText.finish (b : BlockText) (chomping : Chomping) : List Char :=
  let text := if chomping = .strip then b.reversed else b.lastBreak ++ b.reversed
  (if chomping = .keep then b.emptyBreaks ++ text else text).reverse

def blockLines (literal : Bool) (chomping : Chomping) (indent : Nat) (b : BlockText) :
    List Glyph → Option (List Char × List Glyph)
  | [] => some (b.finish chomping, [])
  | g :: rest =>
    if b.inLine then
      if g.isBreak then
        blockLines literal chomping indent { b with lastBreak := [g.char], inLine := false } rest
      else if g.isEnd then some (b.finish chomping, g :: rest)
      else blockLines literal chomping indent { b with reversed := g.char :: b.reversed } rest
    else if g.column < indent && g.char = ' ' then blockLines literal chomping indent b rest
    else if g.column < indent && g.char = '\t' then none
    else if g.isBreak then
      blockLines literal chomping indent
        { b with emptyBreaks := g.char :: b.emptyBreaks } rest
    else if g.column = indent && !g.isEnd then
      blockLines literal chomping indent (b.startLine literal g) rest
    else some (b.finish chomping, g :: rest)

/-- From behind the block indicator; `outer` is the column of the enclosing collection. -/
def blockScalar (literal : Bool) (outer : Int) (input : List Glyph) :
    Option (List Char × List Glyph) := do
  let (chomping, increment, input) ← blockMarks none none input
  let input ← restOfLine false input
  let known := if increment = 0 then 0 else (max outer 0).toNat + increment
  let (widest, breaks, input) ← emptyLines known 0 [] input
  let indent := if known = 0 then max widest (max (outer + 1) 1).toNat else known
  blockLines literal chomping indent { emptyBreaks := breaks } input

end Shortcuts.Yaml
