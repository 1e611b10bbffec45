import Shortcuts.Lookup.Finder

/-!
The namespaces in force. A lookup has the namespaces of its finder and maybe a list that takes
their place, and hands both on to the lookups of the includes it meets. What it comes to depends
on the list that counts alone: it is the lookup that carries no other one.
-/
namespace Shortcuts

namespace Lookup

variable {m : Type → Type} [Monad m] [MonadExcept Failure m]

mutual

/-- The shortcut that an include stands for; `find` looks up a key in a list of namespaces. -/
def included (language : String) (find : List Source → String → m (Option Shortcut))
    (namespaces : List Source) : Include → m (Option Shortcut)
  | .key key => find namespaces (includeKey language key)
  | .reference key none => find namespaces (includeKey language key)
  | .reference key (some name) => find [.official name] (includeKey language key)
  | .list alternatives => firstIncluded language find namespaces alternatives
  | .unrecognized value => throw (.invalidInclude value.render)

def firstIncluded (language : String) (find : List Source → String → m (Option Shortcut))
    (namespaces : List Source) : List Include → m (Option Shortcut)
  | [] => pure none
  | i :: rest => do
    match ← included language find namespaces i with
    | some s => pure (some s)
    | none => firstIncluded language find namespaces rest

end

/-- The shortcut of an entry with its include below it. -/
def resolveEntry (language : String) (find : List Source → String → m (Option Shortcut))
    (namespaces : List Source) : Entry → m (Option Shortcut)
  | .short template => pure (some (.ofUrl (Template.ofShort template)))
  | .full ⟨none, shortcut⟩ => pure (some shortcut)
  | .full ⟨some i, shortcut⟩ => do
    let below ← included language find namespaces i
    pure (below.map shortcut.mergedOver)

def find (supply : Supply m) (language : String) :
    (depth : Nat) → List Source → String → m (Option Shortcut)
  | 0, _, key => throw (.circularInclusion key)
  | depth + 1, namespaces, key => do
    supply.note (.searching key namespaces.length)
    match ← firstEntry supply key namespaces.reverse with
    | none => pure none
    | some entry => resolveEntry language (find supply language depth) namespaces entry

end Lookup

namespace Finder

variable {m : Type → Type} [Monad m] [MonadExcept Failure m] (f : Finder)

section Entry

variable {find : String → Option (List Source) → m (Option Shortcut)}
  {find' : List Source → String → m (Option Shortcut)}

mutual

theorem included_eq (h : ∀ key override, find key override = find' (override.getD f.namespaces) key)
    (override : Option (List Source)) (i : Include) :
    f.included find override i =
      Lookup.included f.language find' (override.getD f.namespaces) i := by
  match i with
  | .key key => rw [included, Lookup.included, h]
  | .reference key none => rw [included, Lookup.included, h]
  | .reference key (some name) => rw [included, Lookup.included, h, Option.getD_some]
  | .list alternatives =>
    rw [included, Lookup.included]
    exact firstIncluded_eq h override alternatives
  | .unrecognized value => rw [included, Lookup.included]

theorem firstIncluded_eq
    (h : ∀ key override, find key override = find' (override.getD f.namespaces) key)
    (override : Option (List Source)) (alternatives : List Include) :
    f.firstIncluded find override alternatives =
      Lookup.firstIncluded f.language find' (override.getD f.namespaces) alternatives := by
  match alternatives with
  | [] => rw [firstIncluded, Lookup.firstIncluded]
  | i :: rest =>
    rw [firstIncluded, Lookup.firstIncluded, included_eq h override i]
    refine congrArg (_ >>= ·) (funext fun found => ?_)
    cases found with
    | some s => rfl
    | none => exact firstIncluded_eq h override rest

end

theorem resolveEntry_eq
    (h : ∀ key override, find key override = find' (override.getD f.namespaces) key)
    (override : Option (List Source)) (e : Entry) :
    f.resolveEntry find override e =
      Lookup.resolveEntry f.language find' (override.getD f.namespaces) e := by
  match e with
  | .short template => rfl
  | .full ⟨none, own⟩ => rfl
  | .full ⟨some i, own⟩ =>
    rw [resolveEntry, Lookup.resolveEntry, f.included_eq h override i]

end Entry

/-- The namespaces of the finder matter to a lookup only where no list takes their place. -/
theorem find_eq (supply : Supply m) (depth : Nat) (key : String)
    (override : Option (List Source)) :
    f.find supply key override depth =
      Lookup.find supply f.language depth (override.getD f.namespaces) key := by
  induction depth generalizing key override with
  | zero => rfl
  | succ depth ih =>
    rw [find, Lookup.find]
    refine congrArg (_ >>= ·) (funext fun _ => congrArg (_ >>= ·) (funext fun entry => ?_))
    cases entry with
    | none => rfl
    | some e => exact f.resolveEntry_eq ih override e

end Finder

end Shortcuts
