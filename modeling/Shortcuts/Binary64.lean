/-!
Binary floating point numbers of 64 bits in exact natural number arithmetic. A finite number
is a sign, a significand below 2^53 and a power of two; `roundRatio` takes a quotient to the
nearest such number, ties to the even significand. `shortest` finds the fewest decimal digits
that round back to a given number.
-/
namespace Shortcuts

inductive Binary64 where
  | finite (negative : Bool) (significand : Nat) (exponent : Int)
  | infinite (negative : Bool)
  | nan
  deriving DecidableEq, Repr

namespace Binary64

def significandBits : Nat := 53
def leastExponent : Int := -1074
def greatestExponent : Int := 971

def zero (negative : Bool) : Binary64 := .finite negative 0 leastExponent

def isFinite : Binary64 → Bool
  | .finite .. => true
  | _ => false

/-- The nearest natural number to `num / den`; a tie goes to the even one. -/
def roundDiv (num den : Nat) : Nat :=
  let q := num / den
  let r := num % den
  if 2 * r < den then q
  else if den < 2 * r then q + 1
  else q + q % 2

/-- `num / den` in units of `2 ^ e`, as a quotient of natural numbers. -/
def inUnits (num den : Nat) (e : Int) : Nat × Nat :=
  if 0 ≤ e then (num, den <<< e.toNat) else (num <<< (-e).toNat, den)

/-- The exponent at which `num / den` has a significand of 53 bits, or the least exponent. -/
def exponentOf (num den : Nat) : Int :=
  let e : Int := (Nat.log2 num : Int) - Nat.log2 den - 52
  let (n, d) := inUnits num den e
  max leastExponent (if n < d <<< 52 then e - 1 else e)

def roundRatio (negative : Bool) (num den : Nat) : Binary64 :=
  if num = 0 then zero negative
  else
    let e := exponentOf num den
    let (n, d) := inUnits num den e
    let m := roundDiv n d
    let (m, e) := if m = 1 <<< significandBits then (1 <<< 52, e + 1) else (m, e)
    if greatestExponent < e then .infinite negative else .finite negative m e

/-- A natural number times a power of ten, rounded once. Exponents far outside the range of
the format need no large powers. -/
def ofDecimal (negative : Bool) (digits : Nat) (exponent : Int) : Binary64 :=
  if digits = 0 then zero negative
  else if 400 < exponent then .infinite negative
  else if exponent + (Nat.toDigits 10 digits).length < -400 then zero negative
  else if 0 ≤ exponent then roundRatio negative (digits * Nat.pow 10 exponent.toNat) 1
  else roundRatio negative digits (Nat.pow 10 (-exponent).toNat)

/-- The magnitude of a finite number as a quotient. -/
def ratio (significand : Nat) (exponent : Int) : Nat × Nat :=
  if 0 ≤ exponent then (significand <<< exponent.toNat, 1)
  else (significand, 1 <<< (-exponent).toNat)

def mul : Binary64 → Binary64 → Binary64
  | .finite s m e, .finite t n f =>
    let (a, b) := ratio m e
    let (c, d) := ratio n f
    roundRatio (s != t) (a * c) (b * d)
  | _, _ => .nan

def div : Binary64 → Binary64 → Binary64
  | .finite s m e, .finite t n f =>
    let (a, b) := ratio m e
    let (c, d) := ratio n f
    if c = 0 then .nan else roundRatio (s != t) (a * d) (b * c)
  | _, _ => .nan

/-- The `k` with `10 ^ k ≤ num / den < 10 ^ (k + 1)`. -/
def decimalExponent (num den : Nat) : Int :=
  if den ≤ num then (Nat.toDigits 10 (num / den)).length - 1
  else
    let d := (Nat.toDigits 10 (den / num)).length
    if num * Nat.pow 10 (d - 1) = den then -((d : Int) - 1) else -(d : Int)

/-- Twice the distances to the two neighbouring halfway points, in quarters of `2 ^ exponent`. -/
def gaps (significand : Nat) (exponent : Int) : Nat × Nat :=
  if significand = 1 <<< 52 ∧ leastExponent < exponent then (1, 2) else (2, 2)

/-- Whether `c · 10 ^ k` rounds to the number with this significand and exponent. -/
def roundsTo (significand : Nat) (exponent : Int) (c : Nat) (k : Int) : Bool :=
  let (below, above) := gaps significand exponent
  let (a, b) := if 0 ≤ k then (c * Nat.pow 10 k.toNat, 1) else (c, Nat.pow 10 (-k).toNat)
  let (n, d) := inUnits (4 * a) b exponent
  let low := (4 * significand - below) * d
  let high := (4 * significand + above) * d
  if significand % 2 = 0 then low ≤ n && n ≤ high else low < n && n < high

/-- A coefficient that reached `10 ^ n` is written with `n` digits one power higher. -/
def carried (n c : Nat) (k : Int) : Nat × Int :=
  if c = Nat.pow 10 n then (Nat.pow 10 (n - 1), k + 1) else (c, k)

/-- The candidate with `n` digits nearest to the number, if one of its two neighbours on that
decimal grid rounds back. -/
def candidate (significand : Nat) (exponent : Int) (n : Nat) : Option (Nat × Int) :=
  let (num, den) := ratio significand exponent
  let k := decimalExponent num den + 1 - n
  let (a, b) :=
    if 0 ≤ k then (num, den * Nat.pow 10 k.toNat) else (num * Nat.pow 10 (-k).toNat, den)
  let c := a / b
  match roundsTo significand exponent c k, roundsTo significand exponent (c + 1) k with
  | true, true => some (carried n (roundDiv a b) k)
  | true, false => some (c, k)
  | false, true => some (carried n (c + 1) k)
  | false, false => none

/-- The shortest decimal `digits · 10 ^ k` that rounds to a nonzero finite number. Seventeen
digits always suffice. -/
def shortest (significand : Nat) (exponent : Int) : Nat × Int :=
  ((List.range 17).findSome? fun i => candidate significand exponent (i + 1)).getD
    (significand, exponent)

end Binary64

end Shortcuts
