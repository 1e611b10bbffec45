/-!
Punycode: names with characters beyond ASCII written in ASCII letters, digits and hyphens. The
ASCII characters come first; the others follow in ascending order as distances from one to the
next, in base 36 with thresholds that adapt to the distances seen so far.
-/
namespace Shortcuts.Punycode

def digit (d : Nat) : Char := if d < 26 then Char.ofNat (97 + d) else Char.ofNat (22 + d)

def threshold (k bias : Nat) : Nat :=
  if k ≤ bias then 1 else if bias + 26 ≤ k then 26 else k - bias

theorem threshold_bounds (k bias : Nat) : 1 ≤ threshold k bias ∧ threshold k bias ≤ 26 := by
  unfold threshold
  split
  · omega
  · split <;> omega

def shrink (delta k : Nat) : Nat × Nat :=
  if 455 < delta then shrink (delta / 35) (k + 36) else (delta, k)
termination_by delta

def adapt (delta points : Nat) (first : Bool) : Nat :=
  let delta := if first then delta / 700 else delta / 2
  let (delta, k) := shrink (delta + delta / points) 0
  k + 36 * delta / (delta + 38)

/-- A distance as digits, the least significant first. -/
def digits (bias k q : Nat) : List Char :=
  if q < threshold k bias then [digit q]
  else
    digit (threshold k bias + (q - threshold k bias) % (36 - threshold k bias)) ::
      digits bias (k + 36) ((q - threshold k bias) / (36 - threshold k bias))
termination_by q
decreasing_by
  have h := threshold_bounds k bias
  have hle := Nat.div_le_self (q - threshold k bias) (36 - threshold k bias)
  omega

structure Progress where
  output : List Char
  delta : Nat
  bias : Nat
  handled : Nat

/-- Passes one character of the name while the code point `m` is being written. -/
def pass (basic m : Nat) (p : Progress) (c : Char) : Progress :=
  if c.toNat < m then { p with delta := p.delta + 1 }
  else if c.toNat = m then
    { output := p.output ++ digits p.bias 36 p.delta, delta := 0
      bias := adapt p.delta (p.handled + 1) (p.handled = basic), handled := p.handled + 1 }
  else p

def passAll (name : List Char) (basic : Nat) : (next : Nat) → List Nat → Progress → Progress
  | _, [], p => p
  | next, m :: rest, p =>
    let p := { p with delta := p.delta + (m - next) * (p.handled + 1) }
    let p := name.foldl (pass basic m) p
    passAll name basic (m + 1) rest { p with delta := p.delta + 1 }

def insertDistinct (n : Nat) : List Nat → List Nat
  | [] => [n]
  | m :: rest =>
    if n < m then n :: m :: rest else if n = m then m :: rest else m :: insertDistinct n rest

def encode (name : List Char) : List Char :=
  let basic := name.filter (·.toNat < 128)
  let codes := ((name.filter (128 ≤ ·.toNat)).map Char.toNat).foldr insertDistinct []
  let start : Progress := ⟨[], 0, 72, basic.length⟩
  let tail := (passAll name basic.length 128 codes start).output
  if basic.isEmpty then tail else basic ++ '-' :: tail

end Shortcuts.Punycode
