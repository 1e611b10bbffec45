import Shortcuts.Proofs.Lookup.Alternatives
import Shortcuts.Proofs.Resolution.Process
import Shortcuts.Proofs.Lookup.Search

/-!
Namespaces without data. Lookups and searches walk past them at every step, so they depend on the
sources that have data and on the order of these alone.
-/
namespace Shortcuts

namespace Store

variable (store : Store)

/-- The sources that have data, in the same order. -/
def stocked (sources : List Source) : List Source := sources.filter fun s => (store s).isSome

/-- The second list has sources without data in addition, at whatever places. -/
inductive Padded : List Source → List Source → Prop
  | nil : Padded [] []
  | keep {sources padded} (s : Source) (h : Padded sources padded) :
      Padded (s :: sources) (s :: padded)
  | pad {sources padded s} (hs : store s = none) (h : Padded sources padded) :
      Padded sources (s :: padded)

variable {store}

theorem stocked_cons_of_none {s : Source} (hs : store s = none) (rest : List Source) :
    store.stocked (s :: rest) = store.stocked rest :=
  List.filter_cons_of_neg (by simp [hs])

theorem stocked_cons_of_some {s : Source} {entries : EntryMap} (hs : store s = some entries)
    (rest : List Source) : store.stocked (s :: rest) = s :: store.stocked rest :=
  List.filter_cons_of_pos (by simp [hs])

theorem Padded.stocked_eq {sources padded : List Source} (h : store.Padded sources padded) :
    store.stocked padded = store.stocked sources := by
  induction h with
  | nil => rfl
  | keep s h ih =>
    cases hs : store s with
    | none => rw [stocked_cons_of_none hs, stocked_cons_of_none hs, ih]
    | some entries => rw [stocked_cons_of_some hs, stocked_cons_of_some hs, ih]
  | pad hs h ih => rw [stocked_cons_of_none hs, ih]

variable (store)

theorem deciding?_stocked (namespaces : List Source) (key : String) :
    store.deciding? (store.stocked namespaces) key = store.deciding? namespaces key := by
  induction namespaces with
  | nil => rfl
  | cons s rest ih =>
    cases hs : store s with
    | none =>
      have hentry : store.entry? s key = none := by rw [Store.entry?, hs, Option.bind_none]
      rw [stocked_cons_of_none hs, deciding?_cons, hentry, Option.or_none, ih]
    | some entries => rw [stocked_cons_of_some hs, deciding?_cons, deciding?_cons, ih]

end Store

namespace Lookup

variable {store : Store} {language : String}

/-- An include leads to the same namespaces again or to a single one. -/
theorem resolveEntry_stocked {find : List Source → String → Except Failure (Option Shortcut)}
    {namespaces : List Source}
    (h : ∀ key, find (store.stocked namespaces) key = find namespaces key) (e : Entry) :
    resolveEntry language find (store.stocked namespaces) e =
      resolveEntry language find namespaces e := by
  apply resolveEntry_congr
  intro i _
  apply included_congr
  intro leaf hleaf
  match leaf, Include.isLeaf_of_mem_leaves hleaf with
  | .key key, _ => exact h (includeKey language key)
  | .reference key none, _ => exact h (includeKey language key)
  | .reference key (some name), _ => rfl
  | .unrecognized value, _ => rfl

theorem find_stocked (depth : Nat) (namespaces : List Source) (key : String) :
    find store.supply language depth (store.stocked namespaces) key =
      find store.supply language depth namespaces key := by
  induction depth generalizing key with
  | zero => rfl
  | succ depth ih =>
    rw [find_succ, find_succ, store.deciding?_stocked]
    cases store.deciding? namespaces key with
    | none => rfl
    | some e => exact resolveEntry_stocked ih e

end Lookup

namespace Finder

variable (f : Finder) (store : Store)

/-- The finder without the namespaces that have no data. -/
def stocked : Finder := { f with namespaces := store.stocked f.namespaces }

theorem find_stocked (key : String) (depth : Nat) :
    (f.stocked store).find store.supply key none depth = f.find store.supply key none depth := by
  rw [find_eq, find_eq]
  exact Lookup.find_stocked depth f.namespaces key

theorem findKeyword_stocked (keyword : String) (count : Nat) :
    (f.stocked store).findKeyword store.supply keyword count =
      f.findKeyword store.supply keyword count := by
  rw [findKeyword_supply, findKeyword_supply]
  induction count with
  | zero => rfl
  | succ count ih => rw [findCount_succ, findCount_succ, find_stocked, ih]

/-! ## Searches -/

theorem resolve_stocked (e : Entry) : (f.stocked store).resolve store e = f.resolve store e := by
  rw [resolve_eq, resolve_eq]
  exact Lookup.resolveEntry_stocked (Lookup.find_stocked maxIncludeDepth f.namespaces) e

theorem searchEntries_stocked (query : String) (entries : List (String × Entry))
    (found : KeyMap Shortcut) :
    (f.stocked store).searchEntries store.supply query entries found =
      f.searchEntries store.supply query entries found := by
  induction entries generalizing found with
  | nil => rfl
  | cons head rest ih =>
    obtain ⟨key, e⟩ := head
    rw [searchEntries_cons, searchEntries_cons, hit?, hit?, resolve_stocked]
    cases f.resolve store e with
    | error failure => rfl
    | ok resolved => exact ih _

theorem searchSources_stocked (query : String) (sources : List Source)
    (found : KeyMap Shortcut) :
    (f.stocked store).searchSources store.supply query (store.stocked sources) found =
      f.searchSources store.supply query sources found := by
  induction sources generalizing found with
  | nil => rfl
  | cons s rest ih =>
    have hrest : (f.stocked store).searchSources store.supply query (store.stocked rest) =
        f.searchSources store.supply query rest := funext ih
    rw [f.searchSources_cons]
    cases hs : store s with
    | none =>
      rw [Store.stocked_cons_of_none hs]
      exact ih found
    | some entries =>
      rw [Store.stocked_cons_of_some hs, searchSources_cons, hs]
      simp only
      rw [searchEntries_stocked, hrest]

theorem search_stocked (query : String) :
    (f.stocked store).search store.supply query = f.search store.supply query := by
  have hreverse : (f.stocked store).namespaces.reverse = store.stocked f.namespaces.reverse :=
    List.filter_reverse.symm
  rw [search, search, searchLowered, searchLowered, hreverse, searchSources_stocked]

end Finder

end Shortcuts
