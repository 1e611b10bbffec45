import Shortcuts.Text.Digits

/-!
Blanks, comments, keys and quoted texts of TOML. Each reader takes the characters from where it
starts and returns what it read with the characters behind it.
-/
namespace Shortcuts.Toml

def isBlank (c : Char) : Bool := c = ' ' || c = '\t'

def skipBlanks (cs : List Char) : List Char := cs.dropWhile isBlank

/-- A control character other than the tab may stand nowhere. -/
def isControl (c : Char) : Bool := (c.toNat < 32 && c ≠ '\t') || c.toNat = 127

def lineEnd? : List Char → Option (List Char)
  | '\n' :: rest => some rest
  | '\r' :: '\n' :: rest => some rest
  | _ => none

/-- Up to the end of the line; `none` if there is a character that a comment may not hold. -/
def skipComment : List Char → Option (List Char)
  | [] => some []
  | '\n' :: rest => some ('\n' :: rest)
  | '\r' :: '\n' :: rest => some ('\r' :: '\n' :: rest)
  | c :: rest => if isControl c then none else skipComment rest

/-- Blanks and a comment behind an expression, and the line end. -/
def finishLine (cs : List Char) : Option (List Char) :=
  let cs := skipBlanks cs
  let cs := match cs with
    | '#' :: rest => skipComment rest
    | cs => some cs
  cs.bind fun cs => if cs.isEmpty then some [] else lineEnd? cs

/-- Blanks, line ends and comments; `fuel` bounds the number of them. -/
def skipSpace : (fuel : Nat) → List Char → Option (List Char)
  | 0, cs => some cs
  | fuel + 1, cs =>
    match cs with
    | '#' :: rest => (skipComment rest).bind (skipSpace fuel)
    | c :: rest =>
      if isBlank c then skipSpace fuel rest
      else match lineEnd? (c :: rest) with
        | some rest => skipSpace fuel rest
        | none => some (c :: rest)
    | [] => some []

def skipAllSpace (cs : List Char) : Option (List Char) := skipSpace (cs.length + 1) cs

/-! ## Quoted texts -/

def escape? : Char → Option Char
  | 'b' => some '\x08'
  | 't' => some '\t'
  | 'n' => some '\n'
  | 'f' => some '\x0c'
  | 'r' => some '\r'
  | 'e' => some '\x1b'
  | '"' => some '"'
  | '\\' => some '\\'
  | _ => none

def codeLength? : Char → Option Nat
  | 'x' => some 2
  | 'u' => some 4
  | 'U' => some 8
  | _ => none

inductive Quoting where
  | within
  | escape
  | code (left value : Nat)
  /-- Behind an escaped line end, where white space does not count. -/
  | trimming (sawEnd : Bool)
  /-- Within a run of quotes. -/
  | quotes (count : Nat)

/-- The rest of a quoted text on one line; `single` tells which quote opened it. -/
def oneLine (single : Bool) (state : Quoting) (reversed : List Char) :
    List Char → Option (List Char × List Char)
  | [] => none
  | c :: rest =>
    match state with
    | .escape =>
      match escape? c, codeLength? c with
      | some d, _ => oneLine single .within (d :: reversed) rest
      | none, some n => oneLine single (.code n 0) reversed rest
      | none, none => none
    | .code left value =>
      (Text.digit? c).bind fun h =>
        let value := 16 * value + h
        if 1 < left then oneLine single (.code (left - 1) value) reversed rest
        else if value.isValidChar then
          oneLine single .within (Char.ofNat value :: reversed) rest
        else none
    | _ =>
      if c = (if single then '\'' else '"') then some (reversed.reverse, rest)
      else if isControl c then none
      else if !single && c = '\\' then oneLine single .escape reversed rest
      else oneLine single .within (c :: reversed) rest

def quoteOf (single : Bool) : Char := if single then '\'' else '"'

/-- The rest of a quoted text on several lines. Up to two quotes may stand in front of the three
that close it. -/
def manyLines (single : Bool) (state : Quoting) (reversed : List Char) :
    List Char → Option (List Char × List Char)
  | [] =>
    match state with
    | .quotes n =>
      if 3 ≤ n then some ((List.replicate (n - 3) (quoteOf single) ++ reversed).reverse, [])
      else none
    | _ => none
  | c :: rest =>
    match state with
    | .escape =>
      if isBlank c || c = '\r' then manyLines single (.trimming false) reversed rest
      else if c = '\n' then manyLines single (.trimming true) reversed rest
      else match escape? c, codeLength? c with
        | some d, _ => manyLines single .within (d :: reversed) rest
        | none, some n => manyLines single (.code n 0) reversed rest
        | none, none => none
    | .code left value =>
      (Text.digit? c).bind fun h =>
        let value := 16 * value + h
        if 1 < left then manyLines single (.code (left - 1) value) reversed rest
        else if value.isValidChar then
          manyLines single .within (Char.ofNat value :: reversed) rest
        else none
    | .trimming sawEnd =>
      if isBlank c || (c = '\r' && rest.head? = some '\n') then
        manyLines single (.trimming sawEnd) reversed rest
      else if c = '\n' then manyLines single (.trimming true) reversed rest
      else if !sawEnd then none
      else if c = '"' then manyLines single (.quotes 1) reversed rest
      else if c = '\\' then manyLines single .escape reversed rest
      else if isControl c then none
      else manyLines single .within (c :: reversed) rest
    | .quotes n =>
      if c = quoteOf single && n < 5 then manyLines single (.quotes (n + 1)) reversed rest
      else if 3 ≤ n then
        some ((List.replicate (n - 3) (quoteOf single) ++ reversed).reverse, c :: rest)
      else
        let reversed := List.replicate n (quoteOf single) ++ reversed
        if !single && c = '\\' then manyLines single .escape reversed rest
        else if c = '\r' && rest.head? = some '\n' then manyLines single .within reversed rest
        else if isControl c && c ≠ '\n' then none
        else manyLines single .within (c :: reversed) rest
    | .within =>
      if c = quoteOf single then manyLines single (.quotes 1) reversed rest
      else if !single && c = '\\' then manyLines single .escape reversed rest
      else if c = '\r' && rest.head? = some '\n' then manyLines single .within reversed rest
      else if isControl c && c ≠ '\n' then none
      else manyLines single .within (c :: reversed) rest

/-- A quoted text of any kind. -/
def quotedText (cs : List Char) : Option (List Char × List Char) :=
  let several (single : Bool) (rest : List Char) : Option (List Char × List Char) :=
    manyLines single .within [] ((lineEnd? rest).getD rest)
  match cs with
  | '"' :: '"' :: '"' :: rest => several false rest
  | '\'' :: '\'' :: '\'' :: rest => several true rest
  | '"' :: rest => oneLine false .within [] rest
  | '\'' :: rest => oneLine true .within [] rest
  | _ => none

/-! ## Keys -/

def isBareKeyChar (c : Char) : Bool := c.isAlphanum || c = '_' || c = '-'

def simpleKey (cs : List Char) : Option (String × List Char) :=
  match cs with
  | '"' :: rest => (oneLine false .within [] rest).map fun (k, r) => (String.ofList k, r)
  | '\'' :: rest => (oneLine true .within [] rest).map fun (k, r) => (String.ofList k, r)
  | cs =>
    let key := cs.takeWhile isBareKeyChar
    if key.isEmpty then none else some (String.ofList key, cs.dropWhile isBareKeyChar)

/-- Keys with dots between them and blanks around; `fuel` bounds their number. -/
def dottedKey : (fuel : Nat) → List Char → Option (List String × List Char)
  | 0, _ => none
  | fuel + 1, cs => do
    let (key, rest) ← simpleKey (skipBlanks cs)
    match skipBlanks rest with
    | '.' :: rest =>
      let (keys, rest) ← dottedKey fuel rest
      some (key :: keys, rest)
    | rest => some ([key], rest)

end Shortcuts.Toml
