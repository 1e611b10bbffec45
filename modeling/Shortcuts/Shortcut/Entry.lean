import Shortcuts.Shortcut.Basic
import Shortcuts.Table

/-!
Entries of a namespace: a URL template in short notation, or a definition that may include other
entries. Among alternatives the first that resolves is included.
-/
namespace Shortcuts

inductive Include where
  | key (searchKey : String)
  /-- A reference with a namespace is looked up in that official namespace alone. -/
  | reference (searchKey : String) (within : Option String)
  | list (alternatives : List Include)
  | unrecognized (value : Json)
  deriving Inhabited

namespace Include

mutual

def decEq : (a b : Include) → Decidable (a = b)
  | .key a, .key b => decidable_of_iff (a = b) (by simp)
  | .reference a m, .reference b n => decidable_of_iff (a = b ∧ m = n) (by simp)
  | .list a, .list b => @decidable_of_iff _ (a = b) (by simp) (decEqList a b)
  | .unrecognized a, .unrecognized b => decidable_of_iff (a = b) (by simp)
  | .key _, .reference .. | .key _, .list _ | .key _, .unrecognized _
  | .reference .., .key _ | .reference .., .list _ | .reference .., .unrecognized _
  | .list _, .key _ | .list _, .reference .. | .list _, .unrecognized _
  | .unrecognized _, .key _ | .unrecognized _, .reference .. | .unrecognized _, .list _ =>
    isFalse (by simp)

def decEqList : (a b : List Include) → Decidable (a = b)
  | [], [] => isTrue rfl
  | [], _ :: _ | _ :: _, [] => isFalse (by simp)
  | x :: xs, y :: ys =>
    @decidable_of_iff _ (x = y ∧ xs = ys) (by simp)
      (@instDecidableAnd _ _ (decEq x y) (decEqList xs ys))

end

instance : DecidableEq Include := decEq

end Include

structure Definition where
  include? : Option Include
  shortcut : Shortcut
  deriving DecidableEq, Inhabited

inductive Entry where
  | short (template : String)
  | full (definition : Definition)
  deriving DecidableEq, Inhabited

/-- The entries of a namespace by search key: a keyword, a space and a number of arguments. -/
abbrev EntryMap := Table Entry

def searchKey (keyword : String) (arguments : Nat) : String :=
  keyword ++ " " ++ toString arguments

end Shortcuts
