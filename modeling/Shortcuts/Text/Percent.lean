import Shortcuts.Text.Digits

/-!
Percent encoding of text for use inside a URL. Letters and digits of ASCII and nine marks stand
for themselves; every other character becomes the bytes of its UTF-8 form, each written as a
percent sign and two upper-case hexadecimal digits. `decode` reads the bytes back.
-/
namespace Shortcuts.Percent

def marks : List Char := ['-', '_', '.', '!', '~', '*', '\'', '(', ')']

def isUnreserved (c : Char) : Bool := c.isAlphanum || marks.contains c

def hexDigit (n : Nat) : Char :=
  if n < 10 then Char.ofNat (48 + n) else Char.ofNat (55 + n)

def encodeByte (b : UInt8) : List Char :=
  ['%', hexDigit (b.toNat / 16), hexDigit (b.toNat % 16)]

def encodeChar (c : Char) : List Char :=
  if isUnreserved c then [c] else (String.utf8EncodeChar c).flatMap encodeByte

def encode (text : List Char) : List Char := text.flatMap encodeChar

/-- The bytes an encoded text stands for. A percent sign without two digits behind it stands for
itself. -/
def decode : List Char → List UInt8
  | [] => []
  | '%' :: a :: b :: rest =>
    match Text.digit? a, Text.digit? b with
    | some h, some l => UInt8.ofNat (16 * h + l) :: decode rest
    | _, _ => String.utf8EncodeChar '%' ++ decode (a :: b :: rest)
  | c :: rest => String.utf8EncodeChar c ++ decode rest

end Shortcuts.Percent
