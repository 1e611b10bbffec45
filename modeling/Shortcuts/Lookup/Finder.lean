import Shortcuts.Json.Writer
import Shortcuts.Lookup.Supply
import Shortcuts.Template.Piece

/-!
Looking up search keys. The namespaces of a finder are listed by ascending importance; the most
important one that has the key decides. Including another entry takes one step of a limited
depth, and an entry whose include resolves to nothing is nothing. An include is looked up in the
namespaces of the lookup that met it, or in the one that it names.
-/
namespace Shortcuts

/-- The greatest number of lookups that include each other. -/
def maxIncludeDepth : Nat := 10

structure Finder where
  namespaces : List Source
  language : String

namespace Lookup

variable {m : Type → Type} [Monad m] [MonadExcept Failure m]

/-- A key of an include in a language. -/
def includeKey (language key : String) : String :=
  String.ofList (Text.replace "<$language>".toList language.toList key.toList)

/-- The entry for a key in the first namespace that has it. -/
def firstEntry (supply : Supply m) (key : String) : List Source → m (Option Entry)
  | [] => pure none
  | s :: rest => do
    match ← supply.entries s with
    | none =>
      supply.note (.noData s.display)
      firstEntry supply key rest
    | some entries =>
      match entries.get? key with
      | none => firstEntry supply key rest
      | some entry =>
        supply.note (.found key s.display)
        pure (some entry)

end Lookup

namespace Finder

open Lookup

variable {m : Type → Type} [Monad m] [MonadExcept Failure m]

mutual

/-- The shortcut that an include stands for. A list of namespaces that takes the place of the
finder's own is handed on to `find`, unless a reference names a namespace itself. -/
def included (f : Finder) (find : String → Option (List Source) → m (Option Shortcut))
    (override : Option (List Source)) : Include → m (Option Shortcut)
  | .key key => find (includeKey f.language key) override
  | .reference key none => find (includeKey f.language key) override
  | .reference key (some name) => find (includeKey f.language key) (some [.official name])
  | .list alternatives => f.firstIncluded find override alternatives
  | .unrecognized value => throw (.invalidInclude value.render)

def firstIncluded (f : Finder) (find : String → Option (List Source) → m (Option Shortcut))
    (override : Option (List Source)) : List Include → m (Option Shortcut)
  | [] => pure none
  | i :: rest => do
    match ← f.included find override i with
    | some s => pure (some s)
    | none => f.firstIncluded find override rest

end

/-- The shortcut of an entry with its include below it. -/
def resolveEntry (f : Finder) (find : String → Option (List Source) → m (Option Shortcut))
    (override : Option (List Source)) : Entry → m (Option Shortcut)
  | .short template => pure (some (.ofUrl (Template.ofShort template)))
  | .full ⟨none, shortcut⟩ => pure (some shortcut)
  | .full ⟨some i, shortcut⟩ => do
    let below ← f.included find override i
    pure (below.map shortcut.mergedOver)

/-- Looks up a key; a list of namespaces given here takes the place of the finder's own. -/
def find (f : Finder) (supply : Supply m) (key : String) (override : Option (List Source)) :
    (depth : Nat) → m (Option Shortcut)
  | 0 => throw (.circularInclusion key)
  | depth + 1 => do
    let namespaces := override.getD f.namespaces
    supply.note (.searching key namespaces.length)
    match ← firstEntry supply key namespaces.reverse with
    | none => pure none
    | some entry =>
      f.resolveEntry (fun key override => f.find supply key override depth) override entry

/-- Looks up a keyword with as many arguments as there are, then with ever fewer, down to one. -/
def findCount (f : Finder) (supply : Supply m) (keyword : String) :
    (count : Nat) → m (Option Shortcut)
  | 0 => pure none
  | count + 1 => do
    match ← f.find supply (searchKey keyword (count + 1)) none maxIncludeDepth with
    | some s => pure (some s)
    | none => findCount f supply keyword count

def findKeyword (f : Finder) (supply : Supply m) (keyword : String) (count : Nat) :
    m (Option Shortcut) := do
  match ← f.findCount supply keyword count with
  | some s => pure (some s)
  | none =>
    supply.note (.noShortcut keyword count)
    pure none

/-! ## Full-text search -/

/-- Adds the entries that resolve and contain the query. -/
def searchEntries (f : Finder) (supply : Supply m) (query : String) :
    List (String × Entry) → KeyMap Shortcut → m (KeyMap Shortcut)
  | [], found => pure found
  | (key, entry) :: rest, found => do
    let find key override := f.find supply key override maxIncludeDepth
    match ← f.resolveEntry find none entry with
    | none => searchEntries f supply query rest found
    | some s =>
      searchEntries f supply query rest (if s.mentions query then found.insert key s else found)

/-- The namespaces come by descending importance, so the least important one wins. -/
def searchSources (f : Finder) (supply : Supply m) (query : String) :
    List Source → KeyMap Shortcut → m (KeyMap Shortcut)
  | [], found => pure found
  | s :: rest, found => do
    match ← supply.entries s with
    | none => searchSources f supply query rest found
    | some entries =>
      searchSources f supply query rest (← f.searchEntries supply query entries.entries found)

/-- All entries whose shortcut contains a lower-cased query. -/
def searchLowered (f : Finder) (supply : Supply m) (query : String) : m (KeyMap Shortcut) :=
  f.searchSources supply query f.namespaces.reverse .empty

def search (f : Finder) (supply : Supply m) (query : String) : m (KeyMap Shortcut) :=
  f.searchLowered supply (String.ofList (Text.lowercase query.toList))

end Finder

end Shortcuts
