import Shortcuts.Binary64
import Shortcuts.Toml.Text

/-!
Unquoted values of TOML: truth values, integers in four bases, floats, dates and times. Digits
may be grouped by single underscores. Dates and times are kept as text in one normal form.
-/
namespace Shortcuts.Toml

inductive Scalar where
  | bool (value : Bool)
  | integer (value : Int)
  | float (value : Binary64)
  | moment (text : String)
  deriving DecidableEq, Repr

/-! ## Numbers -/

/-- Digits with single underscores between them, as their values. -/
def groupedDigits (base : Nat) (afterDigit : Bool) : List Char → Option (List Nat)
  | [] => if afterDigit then some [] else none
  | '_' :: rest => if afterDigit then groupedDigits base false rest else none
  | c :: rest =>
    (Text.digitIn? base c).bind fun d => (groupedDigits base true rest).map (d :: ·)

def natural? (base : Nat) (cs : List Char) : Option Nat :=
  (groupedDigits base false cs).map (Text.ofDigits base)

def cutSign : List Char → Bool × List Char
  | '-' :: rest => (true, rest)
  | '+' :: rest => (false, rest)
  | cs => (false, cs)

def hasLeadingZero : List Char → Bool
  | '0' :: _ :: _ => true
  | _ => false

def decimal? (cs : List Char) : Option Nat :=
  if hasLeadingZero cs then none else natural? 10 cs

/-- Integers are refused beyond 128 bits. -/
def integer? (cs : List Char) : Option Int :=
  let value := match cs with
    | '0' :: 'x' :: rest => (natural? 16 rest).map Int.ofNat
    | '0' :: 'o' :: rest => (natural? 8 rest).map Int.ofNat
    | '0' :: 'b' :: rest => (natural? 2 rest).map Int.ofNat
    | cs =>
      let (negative, rest) := cutSign cs
      (decimal? rest).map fun n => if negative then -(n : Int) else n
  value.bind fun n => if -(Nat.pow 2 127) ≤ n ∧ n < Nat.pow 2 128 then some n else none

def isExponentMark (c : Char) : Bool := c = 'e' || c = 'E'

def exponent? : List Char → Option Int
  | [] => some 0
  | _ :: rest =>
    let (negative, digits) := cutSign rest
    (natural? 10 digits).map fun n => if negative then -(n : Int) else n

def float? (cs : List Char) : Option Binary64 :=
  let (negative, rest) := cutSign cs
  if rest = ['i', 'n', 'f'] then some (.infinite negative)
  else if rest = ['n', 'a', 'n'] then some .nan
  else
    let mantissa := rest.takeWhile (!isExponentMark ·)
    let whole := mantissa.takeWhile (· ≠ '.')
    match mantissa.dropWhile (· ≠ '.'), rest.dropWhile (!isExponentMark ·) with
    | [], [] => none
    | [], tail => do
      let n ← decimal? whole
      let e ← exponent? tail
      finite (.ofDecimal negative n e)
    | _ :: fraction, tail => do
      let _ ← decimal? whole
      let w ← groupedDigits 10 false whole
      let f ← groupedDigits 10 false fraction
      let e ← exponent? tail
      finite (.ofDecimal negative (Text.ofDigits 10 (w ++ f)) (e - f.length))
where
  finite (x : Binary64) : Option Binary64 := if x.isFinite then some x else none

/-! ## Dates and times -/

/-- A number of exactly so many digits between two bounds. -/
def field? (digits low high : Nat) (cs : List Char) : Option (List Char × List Char) :=
  let field := cs.take digits
  let n := Text.decimal field
  if field.length = digits ∧ field.all Char.isDigit ∧ low ≤ n ∧ n ≤ high then
    some (field, cs.drop digits)
  else none

def mark? (c : Char) : List Char → Option (List Char)
  | d :: rest => if c = d then some rest else none
  | [] => none

def isLeapYear (y : Nat) : Bool := y % 4 = 0 && (y % 100 ≠ 0 || y % 400 = 0)

def daysIn (year month : Nat) : Nat :=
  if month = 2 then if isLeapYear year then 29 else 28
  else if [4, 6, 9, 11].contains month then 30
  else 31

def date? (cs : List Char) : Option (List Char × List Char) := do
  let (year, cs) ← field? 4 0 9999 cs
  let (month, cs) ← field? 2 1 12 (← mark? '-' cs)
  let (day, cs) ← field? 2 1 (daysIn (Text.decimal year) (Text.decimal month)) (← mark? '-' cs)
  some (year ++ '-' :: month ++ '-' :: day, cs)

/-- The fraction of a second: at most nine digits count, zeros at the end do not. -/
def fraction? : List Char → Option (List Char × List Char)
  | '.' :: rest =>
    let digits := rest.takeWhile Char.isDigit
    let kept := ((digits.take 9).reverse.dropWhile (· = '0')).reverse
    if digits.isEmpty then none
    else some (if kept.isEmpty then ['.', '0'] else '.' :: kept, rest.dropWhile Char.isDigit)
  | cs => some ([], cs)

def time? (cs : List Char) : Option (List Char × List Char) := do
  let (hour, cs) ← field? 2 0 23 cs
  let (minute, cs) ← field? 2 0 59 (← mark? ':' cs)
  match cs with
  | ':' :: cs =>
    let (second, cs) ← field? 2 0 60 cs
    let (fraction, cs) ← fraction? cs
    some (hour ++ ':' :: minute ++ ':' :: second ++ fraction, cs)
  | cs => some (hour ++ ':' :: minute, cs)

def offset? (cs : List Char) : Option (List Char) :=
  match cs with
  | [] => some []
  | [c] => if c = 'Z' || c = 'z' then some ['Z'] else none
  | sign :: rest =>
    if sign = '+' || sign = '-' then do
      let (hour, cs) ← field? 2 0 23 rest
      let (minute, cs) ← field? 2 0 59 (← mark? ':' cs)
      if cs.isEmpty then some (sign :: hour ++ ':' :: minute) else none
    else none

def moment? (cs : List Char) : Option (List Char) :=
  match date? cs with
  | some (date, []) => some date
  | some (date, c :: rest) =>
    if c = 'T' || c = 't' || c = ' ' then do
      let (time, rest) ← time? rest
      let offset ← offset? rest
      some (date ++ 'T' :: time ++ offset)
    else none
  | none =>
    match time? cs with
    | some (time, []) => some time
    | _ => none

/-! ## Scalars -/

def isScalarChar (c : Char) : Bool :=
  c.isAlphanum || ['+', '-', '_', '.', ':'].contains c

/-- The characters of a scalar. A blank may stand between a date and a time. -/
def cutScalar (cs : List Char) : List Char × List Char :=
  let word := cs.takeWhile isScalarChar
  match cs.dropWhile isScalarChar with
  | ' ' :: d :: rest =>
    if d.isDigit && (date? word).any (·.2.isEmpty) then
      (word ++ ' ' :: (d :: rest).takeWhile isScalarChar, (d :: rest).dropWhile isScalarChar)
    else (word, ' ' :: d :: rest)
  | rest => (word, rest)

def scalarOf (cs : List Char) : Option Scalar :=
  if cs = ['t', 'r', 'u', 'e'] then some (.bool true)
  else if cs = ['f', 'a', 'l', 's', 'e'] then some (.bool false)
  else match integer? cs with
    | some n => some (.integer n)
    | none => match float? cs with
      | some x => some (.float x)
      | none => (moment? cs).map fun m => .moment (String.ofList m)

def scalar (cs : List Char) : Option (Scalar × List Char) :=
  let (word, rest) := cutScalar cs
  (scalarOf word).map (·, rest)

end Shortcuts.Toml
