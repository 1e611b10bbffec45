import Shortcuts.Proofs.Entry.Written
import Shortcuts.Proofs.Lookup.Counting
import Shortcuts.Proofs.Lookup.Listing

/-!
What resolved shortcuts are made of. A property of the entries' own parts that stays when one
shortcut is laid over another holds of whatever is found or listed. So where the entries were
read from JSON, no shortcut that comes out has an include among its members, nor an extra member
that passes for a field.
-/
namespace Shortcuts

/-- The property holds of each entry's own part, and stays when shortcuts are merged. -/
structure Store.Inherits (store : Store) (P : Shortcut → Prop) : Prop where
  own : ∀ s key e, store.entry? s key = some e → P e.own
  merged : ∀ own base, P own → P base → P (own.mergedOver base)

namespace Store.Inherits

open Lookup

variable {store : Store} {P : Shortcut → Prop} {language : String}

section Resolving

variable {find : List Source → String → Except Failure (Option Shortcut)}
  {namespaces : List Source} {s : Shortcut}

theorem included (hfind : ∀ namespaces key s, find namespaces key = .ok (some s) → P s)
    {i : Include} (h : Lookup.included language find namespaces i = .ok (some s)) : P s := by
  obtain ⟨leaf, hmem, hleaf⟩ := exists_leaf_of_included (by simp) h
  rcases (Include.isLeaf_of_mem_leaves hmem).target?_cases language namespaces with
    ⟨within, key, htarget⟩ | ⟨value, rfl⟩
  · rw [included_of_target _ _ _ htarget] at hleaf
    exact hfind within key s hleaf
  · rw [included_unrecognized] at hleaf
    cases hleaf

/-- One step: an entry with what it includes below it. -/
theorem resolveEntry (hstore : store.Inherits P)
    (hfind : ∀ namespaces key s, find namespaces key = .ok (some s) → P s) {e : Entry}
    (hown : P e.own) (h : Lookup.resolveEntry language find namespaces e = .ok (some s)) :
    P s := by
  cases hinclude : e.include? with
  | none =>
    rw [resolveEntry_of_plain _ _ _ hinclude] at h
    exact Option.some.inj (Except.ok.inj h) ▸ hown
  | some i =>
    rw [resolveEntry_of_include _ _ _ hinclude, Except.map_eq_ok_iff] at h
    obtain ⟨below, hbelow, hmerged⟩ := h
    obtain ⟨base, rfl, rfl⟩ := Option.map_eq_some_iff.1 hmerged
    exact hstore.merged e.own base hown (included hfind hbelow)

end Resolving

/-- Any number of steps. -/
theorem find (hstore : store.Inherits P) (depth : Nat) (namespaces : List Source) (key : String)
    (s : Shortcut) (h : Lookup.find store.supply language depth namespaces key = .ok (some s)) :
    P s := by
  induction depth generalizing namespaces key s with
  | zero => cases h
  | succ depth ih =>
    obtain ⟨e, hentry, h⟩ := exists_deciding_of_find store language h nofun
    obtain ⟨t, _, ht⟩ := List.exists_of_findSome?_eq_some hentry
    exact hstore.resolveEntry ih (hstore.own t key e ht) h

variable {f : Finder}

theorem findKeyword (hstore : store.Inherits P) {keyword : String} {count : Nat} {s : Shortcut}
    (h : f.findKeyword store.supply keyword count = .ok (some s)) : P s := by
  rw [f.findKeyword_supply, f.findCount_eq_iff store keyword (by simp)] at h
  obtain ⟨c, hdecides⟩ := h
  have hfind := hdecides.result
  rw [Finder.atCount, Finder.find_eq] at hfind
  exact hstore.find _ _ _ s hfind

theorem searchLowered (hstore : store.Inherits P) {query : String} {results : KeyMap Shortcut}
    (h : f.searchLowered store.supply query = .ok results) {key : String} {s : Shortcut}
    (hs : results.get? key = some s) : P s := by
  rw [f.get?_searchLowered store _ h] at hs
  obtain ⟨t, _, ht⟩ := List.exists_of_findSome?_eq_some hs
  obtain ⟨e, hentry, hhit⟩ := Option.bind_eq_some_iff.1 ht
  obtain ⟨hresolve, _⟩ := f.resolve_of_hit? store _ hhit
  rw [Finder.resolve_eq] at hresolve
  exact hstore.resolveEntry (hstore.find _) (hstore.own t key e hentry) hresolve

end Store.Inherits

namespace Shortcut

/-- Written as JSON the shortcut has no include, and no extra member has the name of a field. -/
structure IncludeFree (s : Shortcut) : Prop where
  written : s.toJson.get? "include" = none
  extra : ∀ name ∈ s.extra.keys, name ∉ fieldNames

theorem Unreserved.includeFree {s : Shortcut} (h : s.Unreserved) : s.IncludeFree := by
  constructor
  · obtain ⟨fields, hobject, _, hlookup⟩ := Json.exists_members_object s.toMembers
    rw [toJson, hobject, Json.get?, hlookup, lookup_toMembers, h "include" (by simp)]
    simp
  · intro name hname hfield
    obtain ⟨member, hmember, rfl⟩ := List.mem_map.1 hname
    have hnone := h member.1 (List.mem_cons_of_mem _ hfield)
    have hsome : s.extra.get? member.1 = some member.2 := s.extra.sorted.lookup_eq_some_iff.2 hmember
    rw [hnone] at hsome
    cases hsome

theorem Unreserved.mergedOver {own base : Shortcut} (hown : own.Unreserved)
    (hbase : base.Unreserved) : (own.mergedOver base).Unreserved := by
  intro name hname
  have hextra : (own.mergedOver base).extra = base.extra.extend own.extra := rfl
  rw [hextra, KeyMap.get?_extend, hown name hname, hbase name hname, Option.or_none]

end Shortcut

theorem Entry.unreserved_of_ofJson? {value : Json} {e : Entry} (h : ofJson? value = some e) :
    e.own.Unreserved := by
  have hregular := regular_of_ofJson? h
  match e, hregular with
  | .short template, _ => exact fun name _ => rfl
  | .full d, hregular => exact hregular.unreserved

/-- The entries of each source were read from raw ones, of which the malformed are left out. -/
def Store.Decoded (store : Store) : Prop :=
  ∀ s entries, store s = some entries → ∃ raw : Table Json, entries = EntryMap.lenient raw

theorem Store.Decoded.inherits {store : Store} (h : store.Decoded) :
    store.Inherits Shortcut.Unreserved where
  own s key e hentry := by
    obtain ⟨entries, hentries, hget⟩ := Option.bind_eq_some_iff.1 hentry
    obtain ⟨raw, rfl⟩ := h s entries hentries
    rw [EntryMap.lenient, Table.get?_filterMap, Option.bind_eq_some_iff] at hget
    obtain ⟨value, _, hvalue⟩ := hget
    exact Entry.unreserved_of_ofJson? hvalue
  merged _ _ hown hbase := hown.mergedOver hbase

namespace Finder

variable (f : Finder) (store : Store)

/-- Where all entries were read from JSON, no shortcut that is found or listed has an include, and
none of its extra members has the name of a field. -/
theorem found_includeFree (hstore : store.Decoded) :
    (∀ key override depth s, f.find store.supply key override depth = .ok (some s) →
      s.IncludeFree) ∧
    (∀ keyword count s, f.findKeyword store.supply keyword count = .ok (some s) →
      s.IncludeFree) ∧
    ∀ query results,
      (f.searchLowered store.supply query = .ok results ∨
        f.search store.supply query = .ok results) →
      ∀ key s, results.get? key = some s → s.IncludeFree := by
  have hinherits := hstore.inherits
  simp only [find_eq]
  refine ⟨fun key override depth s h => (hinherits.find depth _ key s h).includeFree,
    fun keyword count s h => (hinherits.findKeyword h).includeFree, ?_⟩
  rintro query results (h | h) key s hs
  · exact (hinherits.searchLowered h hs).includeFree
  · exact (hinherits.searchLowered h hs).includeFree

end Finder

namespace Sample

/-- Raw entries with members that have no meaning: one for each entry, one that both have, and
one that is named like a field within itself. -/
def raw : Table Json := .ofList [
  ("a 1", .object [("include", .string "b 1"), ("title", .string "A"),
    ("examples", .object [("include", .string "c 1"), ("url", .null)]),
    ("note", .string "over b")]),
  ("b 1", .object [("include", .null), ("url", .string "https://b.example/<q>"),
    ("note", .string "b"), ("priority", .ofNat 1)]),
  ("bad 1", .object [("tags", .string "web")])]

def decoded : Store
  | .official "o" => some (.lenient raw)
  | _ => none

theorem decoded_decoded : decoded.Decoded := by
  intro s entries h
  unfold decoded at h
  split at h
  · exact ⟨raw, (Option.some.inj h).symm⟩
  · cases h

/-- The extra members come together, but the includes do not come along. -/
theorem decoded_includeFree : decoded.Decoded ∧
    ∃ s, finder.find decoded.supply "a 1" none 10 = .ok (some s) ∧
      s.url = some "https://b.example/<q>" ∧ s.extra.keys = ["examples", "note", "priority"] ∧
      s.IncludeFree := by
  obtain ⟨hfound, _⟩ := finder.found_includeFree decoded decoded_decoded
  obtain ⟨s, hs, hurl, hkeys⟩ : ∃ s, finder.find decoded.supply "a 1" none 10 = .ok (some s) ∧
      s.url = some "https://b.example/<q>" ∧ s.extra.keys = ["examples", "note", "priority"] :=
    ⟨_, rfl, rfl, rfl⟩
  exact ⟨decoded_decoded, s, hs, hurl, hkeys, hfound "a 1" none 10 s hs⟩

end Sample

end Shortcuts
