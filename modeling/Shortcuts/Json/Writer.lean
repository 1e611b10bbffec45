import Shortcuts.Json.Basic

/-!
The compact text of a JSON value: no blanks, members in order, control characters and the two
reserved characters escaped. A float has the fewest digits that read back; it is written
positionally while its decimal point is at most sixteen digits from the start, and a float that
is not finite is written as `null`.
-/
namespace Shortcuts.Json

def hexDigit (n : Nat) : Char :=
  if n < 10 then Char.ofNat (48 + n) else Char.ofNat (87 + n)

def escape (c : Char) : List Char :=
  match c with
  | '"' => ['\\', '"']
  | '\\' => ['\\', '\\']
  | '\n' => ['\\', 'n']
  | '\r' => ['\\', 'r']
  | '\t' => ['\\', 't']
  | '\x08' => ['\\', 'b']
  | '\x0c' => ['\\', 'f']
  | c =>
    if c.toNat < 32 then ['\\', 'u', '0', '0', hexDigit (c.toNat / 16), hexDigit (c.toNat % 16)]
    else [c]

def quote (s : String) : String :=
  String.ofList ('"' :: s.toList.flatMap escape ++ ['"'])

/-- The text of `digits · 10 ^ k`. -/
def decimalText (digits : List Char) (k : Int) : List Char :=
  let n : Int := digits.length
  let point := n + k
  if 0 ≤ k ∧ point ≤ 16 then digits ++ List.replicate k.toNat '0' ++ ['.', '0']
  else if 0 < point ∧ point ≤ 16 then
    digits.take point.toNat ++ '.' :: digits.drop point.toNat
  else if -5 < point ∧ point ≤ 0 then
    '0' :: '.' :: List.replicate (-point).toNat '0' ++ digits
  else
    let fraction := if digits.length ≤ 1 then [] else '.' :: digits.drop 1
    digits.take 1 ++ fraction ++ 'e' :: (toString (point - 1)).toList

def floatText : Binary64 → String
  | .finite negative significand exponent =>
    let sign := if negative then ['-'] else []
    if significand = 0 then String.ofList (sign ++ ['0', '.', '0'])
    else
      let (digits, k) := Binary64.shortest significand exponent
      String.ofList (sign ++ decimalText (Nat.toDigits 10 digits) k)
  | _ => "null"

def Number.text : Number → String
  | .integer n => toString n
  | .float x => floatText x

mutual

def render : Json → String
  | .null => "null"
  | .bool true => "true"
  | .bool false => "false"
  | .number n => n.text
  | .string s => quote s
  | .array items => "[" ++ renderItems items ++ "]"
  | .members fields => "\x7b" ++ renderFields fields ++ "\x7d"

def renderItems : List Json → String
  | [] => ""
  | [x] => render x
  | x :: rest => render x ++ "," ++ renderItems rest

def renderFields : List (String × Json) → String
  | [] => ""
  | [(name, x)] => quote name ++ ":" ++ render x
  | (name, x) :: rest => quote name ++ ":" ++ render x ++ "," ++ renderFields rest

end

end Shortcuts.Json
