import Shortcuts.Text.Digits
import Shortcuts.Text.Pieces

/-!
Hosts given by eight groups of sixteen bits. Two colons stand for as many groups of zero as are
missing, at least one; the last two groups may be written as four bytes. In the normal form the
first of the longest gaps is left out, if it has two groups or more.
-/
namespace Shortcuts.Web.Ipv6

/-- A group of one to four hexadecimal digits. -/
def group? (cs : List Char) : Option Nat :=
  if cs.isEmpty || 4 < cs.length then none else Text.natural? 16 cs

/-- A byte in decimal digits, without a zero in front. -/
def byte? (cs : List Char) : Option Nat :=
  if cs.isEmpty || (cs.head? = some '0' && cs ≠ ['0']) then none
  else (Text.natural? 10 cs).filter (· ≤ 255)

/-- Four bytes with dots between them. -/
def dotted? (cs : List Char) : Option (List Nat) := do
  match ← (Text.split '.' cs).mapM byte? with
  | [a, b, c, d] => some [256 * a + b, 256 * c + d]
  | _ => none

/-- Groups with colons between them, the last of which is read by `last?`. -/
def groups? (last? : List Char → Option (List Nat)) (cs : List Char) : Option (List Nat) := do
  let parts := Text.split ':' cs
  let front ← parts.dropLast.mapM group?
  return front ++ (← last? (parts.getLast?.getD []))

def single? (cs : List Char) : Option (List Nat) := (group? cs).map ([·])

def ending? (cs : List Char) : Option (List Nat) := (single? cs).or (dotted? cs)

/-- What stands on both sides of the first two colons. -/
def cutGap? : List Char → Option (List Char × List Char)
  | ':' :: ':' :: rest => some ([], rest)
  | c :: rest => (cutGap? rest).map fun (left, right) => (c :: left, right)
  | [] => none

def parse? (cs : List Char) : Option (List Nat) := do
  match cutGap? cs with
  | none => (groups? ending? cs).filter (·.length = 8)
  | some (left, right) =>
    let left ← if left.isEmpty then some [] else groups? single? left
    let right ← if right.isEmpty then some [] else groups? ending? right
    let written := left.length + right.length
    if written ≤ 7 then some (left ++ List.replicate (8 - written) 0 ++ right) else none

/-- The number of zeros that a list starts with. -/
def zeros (groups : List Nat) : Nat := (groups.takeWhile (· = 0)).length

/-- Where the first of the longest runs of zeros starts, and how long it is. -/
def gap (groups : List Nat) : Nat × Nat :=
  (List.range groups.length).foldl
    (fun best i => if best.2 < zeros (groups.drop i) then (i, zeros (groups.drop i)) else best)
    (0, 0)

def text (groups : List Nat) : List Char :=
  let written (part : List Nat) := Text.join [':'] (part.map (Nat.toDigits 16))
  let (start, length) := gap groups
  if length < 2 then written groups
  else written (groups.take start) ++ ':' :: ':' :: written (groups.drop (start + length))

end Shortcuts.Web.Ipv6
