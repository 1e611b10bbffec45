/-!
The values of digits up to base sixteen, and of runs of digits.
-/
namespace Shortcuts.Text

/-- The letters of either case stand for ten to fifteen. -/
def digit? (c : Char) : Option Nat :=
  let n := c.toNat
  if 48 ≤ n ∧ n ≤ 57 then some (n - 48)
  else if 97 ≤ n ∧ n ≤ 102 then some (n - 87)
  else if 65 ≤ n ∧ n ≤ 70 then some (n - 55)
  else none

def digitIn? (base : Nat) (c : Char) : Option Nat := (digit? c).filter (· < base)

/-- The number with these digits, the first of which weighs most. -/
def ofDigits (base : Nat) (digits : List Nat) : Nat := digits.foldl (fun n d => base * n + d) 0

/-- The number written by a run of digits in a base; nothing writes zero. -/
def natural? (base : Nat) (cs : List Char) : Option Nat :=
  (cs.mapM (digitIn? base)).map (ofDigits base)

/-- The number written by a run of decimal digits. -/
def decimal (cs : List Char) : Nat := ofDigits 10 (cs.map fun c => c.toNat - 48)

theorem decimal_append (cs : List Char) (c : Char) :
    decimal (cs ++ [c]) = 10 * decimal cs + (c.toNat - 48) := by
  rw [decimal, ofDigits, List.map_append, List.foldl_append]
  rfl

theorem toNat_digitChar : ∀ d < 10, d.digitChar.toNat - 48 = d := by decide

theorem decimal_toDigits (n : Nat) : decimal (Nat.toDigits 10 n) = n := by
  induction n using Nat.strongRecOn with
  | ind n ih =>
    rcases Nat.lt_or_ge n 10 with hn | hn
    · rw [Nat.toDigits_of_lt_base hn]
      exact (Nat.zero_add _).trans (toNat_digitChar n hn)
    · rw [Nat.toDigits_of_base_le (by omega) hn, decimal_append, ih _ (by omega),
        toNat_digitChar _ (by omega)]
      omega

end Shortcuts.Text
