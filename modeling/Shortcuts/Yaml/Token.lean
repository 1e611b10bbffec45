import Shortcuts.Yaml.Scalar

/-!
The tokens of a YAML text. Collections in block style are opened and closed by changes of the
indentation; a scalar, alias or collection in front of a colon turns out to be a key only when
the colon is met, so its place is remembered and the key token is put there afterwards.
-/
namespace Shortcuts.Yaml

inductive Token where
  | version (major minor : Nat)
  | tagHandle (handle start : String)
  | documentStart | documentEnd
  | sequenceStart | mappingStart | blockEnd
  | openBracket | closeBracket | openBrace | closeBrace | comma
  | entry | key | value
  | alias (name : String)
  | anchor (name : String)
  | tag (handle suffix : String)
  | scalar (plain : Bool) (text : String)
  deriving DecidableEq

/-- A place where a key may have started. -/
structure PossibleKey where
  /-- How many tokens stand in front of it. -/
  before : Nat
  required : Bool
  index : Nat
  line : Nat
  column : Nat

structure Scanner where
  input : List Glyph
  reversed : List Token := []
  count : Nat := 0
  indent : Int := -1
  outerIndents : List Int := []
  keyAllowed : Bool := true
  /-- One place for the block level and one for each open bracket, the innermost first. -/
  places : List (Option PossibleKey) := [none]
  finished : Bool := false

namespace Scanner

def inFlow (s : Scanner) : Bool := 1 < s.places.length

def emit (s : Scanner) (t : Token) : Scanner :=
  { s with reversed := t :: s.reversed, count := s.count + 1 }

/-- Puts tokens, the last one first, behind the first `before` tokens. -/
def emitAt (s : Scanner) (before : Nat) (ts : List Token) : Scanner :=
  let later := s.count - before
  { s with
    reversed := s.reversed.take later ++ ts ++ s.reversed.drop later
    count := s.count + ts.length }

/-- Blanks, comments and line ends up to the next token. In block style a line end allows a key
to follow, and where a key may follow a tab is no blank. -/
def skipSpace (inFlow : Bool) (keyAllowed comment : Bool) : List Glyph → Bool × List Glyph
  | [] => (keyAllowed, [])
  | g :: rest =>
    if g.isBreak then skipSpace inFlow (keyAllowed || !inFlow) false rest
    else if g.isEnd then (keyAllowed, g :: rest)
    else if comment then skipSpace inFlow keyAllowed true rest
    else if g.index = 0 && g.char = byteOrderMark then skipSpace inFlow keyAllowed false rest
    else if g.char = ' ' || ((inFlow || !keyAllowed) && g.char = '\t') then
      skipSpace inFlow keyAllowed false rest
    else if g.char = '#' then skipSpace inFlow keyAllowed true rest
    else (keyAllowed, g :: rest)

/-- A key stays on one line and is at most 1024 characters long. -/
def isStale (g : Glyph) (k : PossibleKey) : Bool :=
  k.line < g.line || k.index + 1024 < g.index

def dropStale (g : Glyph) : List (Option PossibleKey) → Option (List (Option PossibleKey))
  | [] => some []
  | some k :: rest =>
    if isStale g k then
      if k.required then none else (dropStale g rest).map (none :: ·)
    else (dropStale g rest).map (some k :: ·)
  | none :: rest => (dropStale g rest).map (none :: ·)

/-- Closes the block collections that are indented further than the column. -/
def closeBlocks (column : Int) : List Int → Scanner → Scanner
  | [], s => s
  | outer :: rest, s =>
    if column < s.indent then
      closeBlocks column rest { s.emit .blockEnd with indent := outer, outerIndents := rest }
    else s

def unroll (s : Scanner) (column : Int) : Scanner :=
  if s.inFlow then s else closeBlocks column s.outerIndents s

/-- Gives up the possible key of the innermost level. -/
def dropKey (s : Scanner) : Option Scanner :=
  match s.places with
  | some k :: rest => if k.required then none else some { s with places := none :: rest }
  | _ => some s

def saveKey (s : Scanner) (g : Glyph) : Option Scanner :=
  if s.keyAllowed then do
    let required := !s.inFlow && s.indent = g.column
    let s ← s.dropKey
    let key := some ⟨s.count, required, g.index, g.line, g.column⟩
    some { s with places := key :: s.places.drop 1 }
  else some s

/-- Opens a block collection at a column further to the right, with its token in front of the
last `count - before` ones. -/
def roll (s : Scanner) (column : Nat) (t : Token) : Scanner :=
  if s.inFlow || decide ((column : Int) ≤ s.indent) then s
  else { s.emit t with indent := column, outerIndents := s.indent :: s.outerIndents }

/-! ## Tokens of several characters -/

def isWordGlyph (g : Glyph) : Bool :=
  g.char.isAlphanum || g.char = '_' || g.char = '-'

def chars (gs : List Glyph) : List Char := gs.map Glyph.char

def word (gs : List Glyph) : String := String.ofList (chars (gs.takeWhile isWordGlyph))

def afterAnchor : List Char := ['?', ':', ',', ']', '\x7d', '%', '@', '\x60']

def anchorName (input : List Glyph) : Option (String × List Glyph) :=
  let name := word input
  let rest := input.dropWhile isWordGlyph
  if name.isEmpty then none
  else if spaceNext rest || afterAnchor.any (charNext · rest) then some (name, rest)
  else none

def uriMarks : List Char :=
  [';', '/', '?', ':', '@', '&', '=', '+', '$', '.', '!', '~', '*', '\'', '(', ')', '%']

def verbatimMarks : List Char := [',', '[', ']']

def isUriGlyph (verbatim : Bool) (g : Glyph) : Bool :=
  isWordGlyph g || uriMarks.contains g.char || (verbatim && verbatimMarks.contains g.char)

/-- The octets of a tag: a percent sign takes two hexadecimal digits with it. -/
def uriOctets : List Char → Option (List UInt8)
  | [] => some []
  | '%' :: a :: b :: rest => do
    let high ← Text.digit? a
    let low ← Text.digit? b
    return UInt8.ofNat (16 * high + low) :: (← uriOctets rest)
  | c :: rest => if c = '%' then none else (uriOctets rest).map (UInt8.ofNat c.toNat :: ·)

def uri (verbatim : Bool) (input : List Glyph) : Option (String × List Glyph) := do
  let octets ← uriOctets (chars (input.takeWhile (isUriGlyph verbatim)))
  let text ← String.fromUTF8? ⟨octets.toArray⟩
  return (text, input.dropWhile (isUriGlyph verbatim))

/-- A handle between two exclamation marks, or the mark alone with no handle. The input is behind
the first mark; the result is the handle without its first mark. -/
def handle (input : List Glyph) : String × List Glyph :=
  let name := word input
  let rest := input.dropWhile isWordGlyph
  if charNext '!' rest then (name ++ "!", rest.drop 1) else (name, rest)

/-- From behind the exclamation mark. -/
def tagParts (input : List Glyph) : Option (Token × List Glyph) :=
  if charNext '<' input then do
    let (text, rest) ← uri true (input.drop 1)
    if text.isEmpty || !charNext '>' rest then none else some (.tag "" text, rest.drop 1)
  else
    let (name, rest) := handle input
    if name.endsWith "!" then do
      let (suffix, rest) ← uri false rest
      if suffix.isEmpty then none else some (.tag ("!" ++ name) suffix, rest)
    else do
      let (suffix, rest) ← uri false rest
      let suffix := name ++ suffix
      some (if suffix.isEmpty then .tag "" "!" else .tag "!" suffix, rest)

def skipBlanks (input : List Glyph) : List Glyph := input.dropWhile Glyph.isBlank

def isDigitGlyph (g : Glyph) : Bool := g.char.isDigit

/-- At most nine digits. -/
def versionNumber (input : List Glyph) : Option (Nat × List Glyph) :=
  let digits := chars (input.takeWhile isDigitGlyph)
  if digits.isEmpty || 9 < digits.length then none
  else some (Text.decimal digits, input.dropWhile isDigitGlyph)

/-- From behind the percent sign up to the end of the line. -/
def directive (input : List Glyph) : Option (Token × List Glyph) := do
  let name := word input
  let rest := input.dropWhile isWordGlyph
  if name.isEmpty || !spaceNext rest then none
  let rest := skipBlanks rest
  if name = "YAML" then
    let (major, rest) ← versionNumber rest
    if !charNext '.' rest then none
    let (minor, rest) ← versionNumber (rest.drop 1)
    return (.version major minor, ← restOfLine false rest)
  else if name = "TAG" then
    if !charNext '!' rest then none
    let (name, rest) := handle (rest.drop 1)
    if !(name.isEmpty || name.endsWith "!") then none
    match rest with
    | g :: _ => if !g.isBlank then none
    | [] => none
    let (start, rest) ← uri true (skipBlanks rest)
    if start.isEmpty || !spaceNext rest then none
    return (.tagHandle ("!" ++ name) start, ← restOfLine false rest)
  else none

/-! ## One token -/

/-- An indicator of one character, without a key in front of it. -/
def indicator (s : Scanner) (t : Token) (rest : List Glyph) (keyAllowed : Bool) :
    Option Scanner := do
  let s ← s.dropKey
  some { s.emit t with input := rest, keyAllowed }

def openFlow (s : Scanner) (g : Glyph) (t : Token) (rest : List Glyph) : Option Scanner := do
  let s ← s.saveKey g
  some { s.emit t with input := rest, keyAllowed := true, places := none :: s.places }

def closeFlow (s : Scanner) (t : Token) (rest : List Glyph) : Option Scanner := do
  let s ← s.dropKey
  let places := if s.inFlow then s.places.drop 1 else s.places
  some { s.emit t with input := rest, keyAllowed := false, places }

def documentMark (s : Scanner) (t : Token) : Option Scanner := do
  let s ← (s.unroll (-1)).dropKey
  some { s.emit t with input := s.input.drop 3, keyAllowed := false }

def entryMark (s : Scanner) (g : Glyph) (rest : List Glyph) : Option Scanner :=
  if s.inFlow then s.indicator .entry rest true
  else if s.keyAllowed then (s.roll g.column .sequenceStart).indicator .entry rest true
  else none

def keyMark (s : Scanner) (g : Glyph) (rest : List Glyph) : Option Scanner :=
  if s.inFlow then s.indicator .key rest false
  else if s.keyAllowed then (s.roll g.column .mappingStart).indicator .key rest true
  else none

def valueMark (s : Scanner) (g : Glyph) (rest : List Glyph) : Option Scanner :=
  match s.places with
  | some k :: places =>
    let opens := !s.inFlow && decide (s.indent < k.column)
    let t := if opens then s.emitAt k.before [.key, .mappingStart] else s.emitAt k.before [.key]
    let t := if opens then
        { t with indent := k.column, outerIndents := s.indent :: s.outerIndents }
      else t
    some { t.emit .value with input := rest, keyAllowed := false, places := none :: places }
  | _ =>
    if s.inFlow then some { s.emit .value with input := rest, keyAllowed := false }
    else if s.keyAllowed then
      some { (s.roll g.column .mappingStart).emit .value with input := rest, keyAllowed := true }
    else none

/-- A token that may itself be a key. -/
def content (s : Scanner) (g : Glyph) (t : Token) (rest : List Glyph) (keyAllowed : Bool) :
    Option Scanner := do
  let s ← s.saveKey g
  some { s.emit t with input := rest, keyAllowed }

def block (s : Scanner) (literal : Bool) (rest : List Glyph) : Option Scanner := do
  let s ← s.dropKey
  let (text, rest) ← blockScalar literal s.indent rest
  some { s.emit (.scalar false (String.ofList text)) with input := rest, keyAllowed := true }

def quoted (s : Scanner) (g : Glyph) (single : Bool) (rest : List Glyph) : Option Scanner := do
  let (text, rest) ← quotedScalar single .within {} [] rest
  s.content g (.scalar false (String.ofList text)) rest false

def plain (s : Scanner) (g : Glyph) : Option Scanner := do
  let p ← plainScalar s.inFlow (s.indent + 1) false {} [] s.input
  s.content g (.scalar true (String.ofList p.text)) p.rest p.broken

/-- Characters that start no plain scalar, unless they are followed by text. -/
def indicators : List Char :=
  ['-', '?', ':', ',', '[', ']', '\x7b', '\x7d', '#', '&', '*', '!', '|', '>', '\'', '"', '%',
    '@', '\x60']

def startsPlain (inFlow : Bool) (g : Glyph) (rest : List Glyph) : Bool :=
  !(g.isSpace || indicators.contains g.char) ||
    (g.char = '-' && !(match rest with | h :: _ => h.isBlank | [] => false)) ||
    (!inFlow && (g.char = '?' || g.char = ':') && !spaceNext rest)

def fetch (s : Scanner) : Option Scanner := do
  let (keyAllowed, input) := skipSpace s.inFlow s.keyAllowed false s.input
  match input with
  | [] => none
  | g :: rest =>
    let places ← dropStale g s.places
    let s := { s with input, keyAllowed, places }.unroll g.column
    let c := g.char
    if g.isEnd then
      let s ← (s.unroll (-1)).dropKey
      some { s with finished := true }
    else if g.column = 0 && c = '%' then
      let s ← (s.unroll (-1)).dropKey
      let (t, rest) ← directive rest
      some { s.emit t with input := rest, keyAllowed := false }
    else if isDocumentMark '-' s.input then s.documentMark .documentStart
    else if isDocumentMark '.' s.input then s.documentMark .documentEnd
    else if c = '[' then s.openFlow g .openBracket rest
    else if c = '\x7b' then s.openFlow g .openBrace rest
    else if c = ']' then s.closeFlow .closeBracket rest
    else if c = '\x7d' then s.closeFlow .closeBrace rest
    else if c = ',' then s.indicator .comma rest true
    else if c = '-' && spaceNext rest then s.entryMark g rest
    else if c = '?' && (s.inFlow || spaceNext rest) then s.keyMark g rest
    else if c = ':' && (s.inFlow || spaceNext rest) then s.valueMark g rest
    else if c = '*' then
      let (name, rest) ← anchorName rest
      s.content g (.alias name) rest false
    else if c = '&' then
      let (name, rest) ← anchorName rest
      s.content g (.anchor name) rest false
    else if c = '!' then
      let (t, rest) ← tagParts rest
      if spaceNext rest || (s.inFlow && charNext ',' rest) then s.content g t rest false
      else none
    else if c = '|' && !s.inFlow then s.block true rest
    else if c = '>' && !s.inFlow then s.block false rest
    else if c = '\'' then s.quoted g true rest
    else if c = '"' then s.quoted g false rest
    else if startsPlain s.inFlow g rest then s.plain g
    else none

/-- Every step but the last takes at least one glyph, so as many steps as glyphs suffice. -/
def run : Nat → Scanner → Option Scanner
  | 0, _ => none
  | n + 1, s => if s.finished then some s else s.fetch.bind (run n)

end Scanner

def tokens (text : List Char) : Option (List Token) := do
  let input ← glyphs text
  let s ← Scanner.run (input.length + 2) { input }
  some s.reversed.reverse

end Shortcuts.Yaml
