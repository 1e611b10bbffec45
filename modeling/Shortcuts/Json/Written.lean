import Shortcuts.Json.Basic
import Shortcuts.Text.Digits

/-!
JSON values as they are written: texts with their escapes, numbers with their digits, members in
their order and as often as they occur. Not everything that can be written is a value: a code
unit may want its other half, a number may be too large, arrays and objects may be nested too
deep. What nobody asks for may be any of these.
-/
namespace Shortcuts.Json

/-! ## Texts -/

/-- A character of a text, or a code unit of sixteen bits that is given by its digits. -/
inductive Letter where
  | char (c : Char)
  | unit (code : Nat)
  deriving DecidableEq, Repr

namespace Letter

def isHighHalf (code : Nat) : Bool := 0xD800 ≤ code && code < 0xDC00

def isLowHalf (code : Nat) : Bool := 0xDC00 ≤ code && code < 0xE000

/-- The characters that are meant: two halves make one of them, and no half stands alone. -/
def characters? : List Letter → Option (List Char)
  | [] => some []
  | .char c :: rest => (characters? rest).map (c :: ·)
  | .unit high :: .unit low :: rest =>
    if isHighHalf high then
      if isLowHalf low then
        let c := Char.ofNat (0x10000 + (high - 0xD800) * 0x400 + (low - 0xDC00))
        (characters? rest).map (c :: ·)
      else none
    else if isLowHalf high then none
    else (characters? (.unit low :: rest)).map (Char.ofNat high :: ·)
  | .unit code :: rest =>
    if isHighHalf code || isLowHalf code then none
    else (characters? rest).map (Char.ofNat code :: ·)

def text? (letters : List Letter) : Option String := (characters? letters).map String.ofList

end Letter

/-! ## Numbers -/

/-- A number by its digits. -/
structure Numeral where
  negative : Bool
  whole : List Char
  fraction : Option (List Char)
  exponent : Option Int
  deriving DecidableEq, Repr

namespace Numeral

/-- The exponent that follows its mark: an optional sign and at least one digit. -/
def exponent? (cs : List Char) : Option Int :=
  let (negative, digits) := match cs with
    | '-' :: digits => (true, digits)
    | '+' :: digits => (false, digits)
    | digits => (false, digits)
  if digits.isEmpty || !digits.all Char.isDigit then none
  else if negative then some (-(Text.decimal digits : Int)) else some (Text.decimal digits)

def ofChars? (cs : List Char) : Option Numeral := do
  let (negative, rest) := match cs with
    | '-' :: rest => (true, rest)
    | rest => (false, rest)
  let whole := rest.takeWhile Char.isDigit
  guard (!whole.isEmpty && (whole.head? ≠ some '0' || whole.length = 1))
  let (fraction, rest) := match rest.dropWhile Char.isDigit with
    | '.' :: rest => (some (rest.takeWhile Char.isDigit), rest.dropWhile Char.isDigit)
    | rest => (none, rest)
  guard (fraction ≠ some [])
  match rest with
  | [] => some ⟨negative, whole, fraction, none⟩
  | mark :: rest =>
    guard (mark = 'e' || mark = 'E')
    some ⟨negative, whole, fraction, some (← exponent? rest)⟩

/-- Appends digits as long as the number fits into an unsigned word of 64 bits, and counts those
that are left out. -/
def appendDigits : Nat → List Char → Nat × Nat
  | n, [] => (n, 0)
  | n, c :: rest =>
    let longer := 10 * n + (c.toNat - 48)
    if longer < Nat.pow 2 64 then appendDigits longer rest else (n, rest.length + 1)

/-- Significand and power of ten are rounded on their own, then their product or quotient. -/
def scaled (negative : Bool) (significand : Nat) (exponent : Int) : Option Binary64 :=
  let ten (k : Nat) := Binary64.ofDecimal false 1 k
  let start := Binary64.roundRatio negative significand 1
  if 0 ≤ exponent then
    if exponent ≤ 308 then
      let product := start.mul (ten exponent.toNat)
      if product.isFinite then some product else none
    else if significand = 0 then some start else none
  else
    let k := (-exponent).toNat
    if k ≤ 308 then some (start.div (ten k))
    else if k ≤ 616 then some ((start.div (ten 308)).div (ten (k - 308)))
    else some (Binary64.zero negative)

/-- The floating point number, unless it is too large. -/
def float? (n : Numeral) : Option Binary64 :=
  let fraction := n.fraction.getD []
  let (start, dropped) := appendDigits 0 n.whole
  let (significand, skipped) := appendDigits start fraction
  let places : Int := (fraction.length : Int) - skipped
  scaled n.negative significand (n.exponent.getD 0 + dropped - places)

def value? (n : Numeral) : Option Number :=
  let whole := Text.decimal n.whole
  match n.fraction, n.exponent with
  | none, none =>
    if n.negative && 0 < whole && whole ≤ Nat.pow 2 63 then some (.integer (-(whole : Int)))
    else if !n.negative && whole < Nat.pow 2 64 then some (.integer whole)
    else n.float?.map .float
  | _, _ => n.float?.map .float

end Numeral

/-! ## Values -/

inductive Written where
  | null
  | bool (value : Bool)
  | number (n : Numeral)
  | text (letters : List Letter)
  | array (items : List Written)
  | members (fields : List (List Letter × Written))
  deriving Inhabited

namespace Written

/-- Members by their names. Their values need not mean anything. -/
def named? (fields : List (List Letter × Written)) : Option (List (String × Written)) :=
  fields.mapM fun f => (Letter.text? f.1).map (·, f.2)

/-- The members of an object. -/
def members? : Written → Option (List (String × Written))
  | .members fields => named? fields
  | _ => none

/-- How deep arrays and objects of a whole document may be nested. -/
def nestingLimit : Nat := 127

/-- The value that is meant, if arrays and objects in it are not nested deeper than this. -/
def value? : (depth : Nat) → Written → Option Json
  | _, .null => some .null
  | _, .bool b => some (.bool b)
  | _, .number n => n.value?.map .number
  | _, .text letters => (Letter.text? letters).map .string
  | 0, .array _ | 0, .members _ => none
  | depth + 1, .array items => (items.mapM (value? depth)).map .array
  | depth + 1, .members fields =>
    (named? fields).bind fun named =>
      (named.mapM fun f => (value? depth f.2).map (f.1, ·)).map object

end Written

end Shortcuts.Json
