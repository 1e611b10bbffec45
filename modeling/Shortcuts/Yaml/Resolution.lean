import Shortcuts.Yaml.Node
import Shortcuts.Binary64

/-!
The type of a scalar. A plain scalar without a tag is null, a truth value, an integer, a float or
else text; a core tag forces its type. Digits behind a leading zero are text. Integers that need
more than 64 bits are refused.
-/
namespace Shortcuts.Yaml

inductive Resolved where
  | null
  | bool (value : Bool)
  | integer (value : Int)
  | float (value : Binary64)
  | text
  deriving DecidableEq

def isNull (s : String) : Bool :=
  s = "null" || s = "Null" || s = "NULL" || s = "~"

def truthValue? (s : String) : Option Bool :=
  if s = "true" || s = "True" || s = "TRUE" then some true
  else if s = "false" || s = "False" || s = "FALSE" then some false
  else none

/-! ## Integers -/

/-- The value of at least one digit. -/
def digits? (base : Nat) (cs : List Char) : Option Nat :=
  if cs.isEmpty then none else Text.natural? base cs

def dropPlus : List Char → List Char
  | '+' :: rest => rest
  | cs => cs

def isLeadingZero (cs : List Char) : Bool :=
  let cs := match cs with
    | '-' :: rest => rest
    | cs => dropPlus cs
  match cs with
  | '0' :: rest => !rest.isEmpty && rest.all Char.isDigit
  | _ => false

/-- A number in base two, eight or sixteen behind its mark. -/
def based? : List Char → Option Nat
  | '0' :: 'x' :: rest => digits? 16 rest
  | '0' :: 'o' :: rest => digits? 8 rest
  | '0' :: 'b' :: rest => digits? 2 rest
  | _ => none

def natural? (cs : List Char) : Option Nat :=
  let unsigned := dropPlus cs
  match based? unsigned with
  | some n => some n
  | none => if isLeadingZero cs then none else digits? 10 unsigned

def negative? (cs : List Char) : Option Nat :=
  match cs with
  | '-' :: rest =>
    match based? rest with
    | some n => some n
    | none => if isLeadingZero cs then none else digits? 10 rest
  | _ => none

/-- An integer of at most 128 bits. -/
def integer? (cs : List Char) : Option Int :=
  match natural? cs with
  | some n => if n < Nat.pow 2 128 then some n else none
  | none =>
    match negative? cs with
    | some n => if n ≤ Nat.pow 2 127 then some (-(n : Int)) else none
    | none => none

/-! ## Floats -/

/-- The exponent of a float, zero if there is none. -/
def exponent? : List Char → Option Int
  | [] => some 0
  | e :: rest =>
    if e = 'e' || e = 'E' then
      match rest with
      | '-' :: ds => (digits? 10 ds).map fun n => -(n : Int)
      | ds => (digits? 10 (dropPlus ds)).map Int.ofNat
    else none

/-- Digits with at most one point among them, at least one digit, and an exponent. -/
def decimal? (negative : Bool) (cs : List Char) : Option Binary64 :=
  let whole := cs.takeWhile Char.isDigit
  let rest := cs.dropWhile Char.isDigit
  let (fraction, rest) := match rest with
    | '.' :: rest => (rest.takeWhile Char.isDigit, rest.dropWhile Char.isDigit)
    | rest => ([], rest)
  match digits? 10 (whole ++ fraction), exponent? rest with
  | some n, some e => some (.ofDecimal negative n (e - fraction.length))
  | _, _ => none

def float? (s : String) : Option Binary64 :=
  let cs := s.toList
  if s = ".nan" || s = ".NaN" || s = ".NAN" then some .nan
  else if s = "-.inf" || s = "-.Inf" || s = "-.INF" then some (.infinite true)
  else
    let unsigned := dropPlus cs
    let name := String.ofList unsigned
    if name = ".inf" || name = ".Inf" || name = ".INF" then some (.infinite false)
    else
      let value := match cs, unsigned with
        | '+' :: _, unsigned => decimal? false unsigned
        | _, '-' :: rest => decimal? true rest
        | _, cs => decimal? false cs
      match value with
      | some x => if x.isFinite then some x else none
      | none => none

/-! ## Scalars -/

/-- An integer beyond 64 bits is refused. -/
def ofInteger (n : Int) : Option Resolved :=
  if -(Nat.pow 2 63) ≤ n ∧ n < Nat.pow 2 64 then some (.integer n) else none

def resolvePlain (s : String) : Option Resolved :=
  if s.isEmpty || isNull s then some .null
  else match truthValue? s with
    | some b => some (.bool b)
    | none => match integer? s.toList with
      | some n => ofInteger n
      | none =>
        if isLeadingZero s.toList then some .text
        else match float? s with
          | some x => some (.float x)
          | none => some .text

def coreTag (name : String) : String := "tag:yaml.org,2002:" ++ name

/-- A tag that is private to the document, without its mark. -/
def privateTag? (tag : Option String) : Option String :=
  tag.bind fun t => match t.toList with
    | '!' :: rest => some (if rest.isEmpty then t else String.ofList rest)
    | _ => none

/-- `none` if the text does not fit its tag. -/
def resolve (tag : Option String) (plain : Bool) (s : String) : Option Resolved :=
  match tag with
  | none => if plain then resolvePlain s else some .text
  | some t =>
    if t = coreTag "bool" then (truthValue? s).map .bool
    else if t = coreTag "int" then (integer? s.toList).bind ofInteger
    else if t = coreTag "float" then (float? s).map .float
    else if t = coreTag "null" then if isNull s then some .null else none
    else some .text

end Shortcuts.Yaml
