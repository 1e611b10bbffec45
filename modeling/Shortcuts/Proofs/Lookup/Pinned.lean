import Shortcuts.Proofs.Lookup.Alternatives
import Shortcuts.Sample

/-!
Pinned lookups. A lookup in one official namespace stays in that namespace and in those that the
includes found on the way name. Nothing else in the store matters to it, and neither do the
namespaces of the finder.
-/
namespace Shortcuts

namespace Include

/-- The namespace that a reference names. -/
def within? : Include → Option String
  | .reference _ within => within
  | .key _ | .list _ | .unrecognized _ => none

/-- The namespaces that an include names, in whatever list. -/
def named (i : Include) : List String := i.leaves.filterMap within?

end Include

namespace Store

/-- Two stores have the same entries in some official namespaces. -/
def AgreeOn (names : String → Prop) (store store' : Store) : Prop :=
  ∀ name, names name → ∀ key,
    store.entry? (.official name) key = store'.entry? (.official name) key

/-- The includes in some official namespaces name no others. -/
def Closed (names : String → Prop) (store : Store) : Prop :=
  ∀ name, names name → ∀ key e i, store.entry? (.official name) key = some e →
    e.include? = some i → ∀ other ∈ i.named, names other

end Store

namespace Lookup

/-- Each source is one of some official namespaces. -/
def Inside (names : String → Prop) (namespaces : List Source) : Prop :=
  ∀ s ∈ namespaces, ∃ name, names name ∧ s = .official name

variable {names : String → Prop} {store store' : Store} {language : String}
  {namespaces : List Source}

theorem inside_singleton {name : String} (h : names name) : Inside names [.official name] := by
  intro s hs
  exact ⟨name, h, List.mem_singleton.1 hs⟩

/-- Where a leaf leads is inside, if what it names is. -/
theorem Inside.target? (h : Inside names namespaces) {i leaf : Include} {within : List Source}
    {key : String} (hnamed : ∀ other ∈ i.named, names other) (hleaf : leaf ∈ i.leaves)
    (htarget : leaf.target? language namespaces = some (within, key)) : Inside names within := by
  match leaf with
  | .key k =>
    obtain ⟨rfl, _⟩ := Prod.mk.inj (Option.some.inj htarget)
    exact h
  | .reference k none =>
    obtain ⟨rfl, _⟩ := Prod.mk.inj (Option.some.inj htarget)
    exact h
  | .reference k (some name) =>
    obtain ⟨rfl, _⟩ := Prod.mk.inj (Option.some.inj htarget)
    have hname : name ∈ i.named := List.mem_filterMap.2 ⟨_, hleaf, rfl⟩
    exact inside_singleton (hnamed name hname)
  | .list _ | .unrecognized _ => cases htarget

theorem Inside.deciding?_eq (h : Inside names namespaces)
    (hagree : Store.AgreeOn names store store') (key : String) :
    store.deciding? namespaces key = store'.deciding? namespaces key := by
  apply Store.deciding?_congr
  intro s hs
  obtain ⟨name, hname, rfl⟩ := h s hs
  exact hagree name hname key

theorem Inside.named (h : Inside names namespaces) (hclosed : store.Closed names) {key : String}
    {e : Entry} {i : Include} (he : store.deciding? namespaces key = some e)
    (hi : e.include? = some i) : ∀ other ∈ i.named, names other := by
  obtain ⟨s, hs, hentry⟩ := List.exists_of_findSome?_eq_some he
  obtain ⟨name, hname, rfl⟩ := h s (List.mem_reverse.1 hs)
  exact hclosed name hname key e i hentry hi

/-- Lookups inside closed namespaces do not leave them. -/
theorem Inside.find_eq (hagree : Store.AgreeOn names store store') (hclosed : store.Closed names)
    (h : Inside names namespaces) (depth : Nat) (key : String) :
    find store.supply language depth namespaces key =
      find store'.supply language depth namespaces key := by
  induction depth generalizing namespaces key with
  | zero => rfl
  | succ depth ih =>
    rw [find_succ, find_succ, ← h.deciding?_eq hagree]
    cases hentry : store.deciding? namespaces key with
    | none => rfl
    | some e =>
      apply resolveEntry_congr
      intro i hi
      -- The entry stands in one of the namespaces, so the include leads to no others.
      have hnamed := h.named hclosed hentry hi
      apply included_congr
      intro leaf hleaf
      have hcases := (Include.isLeaf_of_mem_leaves hleaf).target?_cases language namespaces
      rcases hcases with ⟨within, key', htarget⟩ | ⟨value, rfl⟩
      · have hwithin : Inside names within := h.target? hnamed hleaf htarget
        rw [included_of_target _ _ _ htarget, included_of_target _ _ _ htarget]
        exact ih hwithin key'
      · rfl

end Lookup

namespace Finder

open Lookup

/-- Where two stores agree on official namespaces that name no others, a lookup in one of these
gives the same in both, whatever the namespaces of the finder. So does an include that names it,
wherever that stands and whatever list the lookup that met it was given. -/
theorem find_pinned {names : String → Prop} {store store' : Store}
    (hagree : Store.AgreeOn names store store') (hclosed : store.Closed names) {name : String}
    (hname : names name) (namespaces namespaces' : List Source) (language key : String)
    (depth : Nat) :
    let f := Finder.mk namespaces language
    let f' := Finder.mk namespaces' language
    f.find store.supply key (some [.official name]) depth =
      f'.find store'.supply key (some [.official name]) depth ∧
    ∀ override override',
      f.included (fun key override => f.find store.supply key override depth) override
          (.reference key (some name)) =
        f'.included (fun key override => f'.find store'.supply key override depth) override'
          (.reference key (some name)) := by
  intro f f'
  have hinside : Inside names [.official name] := inside_singleton hname
  have hfind : ∀ key, f.find store.supply key (some [.official name]) depth =
      f'.find store'.supply key (some [.official name]) depth := by
    intro key
    rw [f.find_eq, f'.find_eq]
    exact hinside.find_eq hagree hclosed depth key
  exact ⟨hfind key, fun override override' => hfind (includeKey language key)⟩

end Finder

namespace Sample

/-- A chain of includes from one namespace into another one. -/
def pinnedEntries : Store
  | .official "p" => some (.ofList [
    ("b 1", including (.list [.key "missing 1", .list [.reference "c-<$language> 1" none]])
      (titled "B")),
    ("c-de 1", including (.reference "d 1" (some "q")) .empty)])
  | .official "q" => some (.ofList [("d 1", including (.key "e 1") .empty),
    ("e 1", shortcut "E" "https://e.example/<q>")])
  | _ => none

/-- The same beside a namespace with entries of its own for some of the keys. -/
def pinnedAmong : Store
  | .official "o" => some (.ofList [("missing 1", shortcut "M" "https://m.example/"),
    ("e 1", shortcut "Other" "https://other.example/")])
  | s => pinnedEntries s

def pinnedNames (name : String) : Prop := name = "p" ∨ name = "q"

theorem pinned_agree : Store.AgreeOn pinnedNames pinnedEntries pinnedAmong := by
  rintro name (rfl | rfl) key
  · rfl
  · rfl

theorem pinned_closed : pinnedEntries.Closed pinnedNames := by
  rintro name (rfl | rfl) key e i he hi other hother
  · have hmem := (Table.get?_eq_some_iff _ _ _).1 he
    rcases List.mem_cons.1 hmem with heq | hmem
    · obtain ⟨rfl, rfl⟩ := Prod.mk.inj heq
      obtain rfl := Option.some.inj hi
      cases hother
    · obtain ⟨rfl, rfl⟩ := Prod.mk.inj (List.mem_singleton.1 hmem)
      obtain rfl := Option.some.inj hi
      obtain rfl := List.mem_singleton.1 hother
      exact .inr rfl
  · have hmem := (Table.get?_eq_some_iff _ _ _).1 he
    rcases List.mem_cons.1 hmem with heq | hmem
    · obtain ⟨rfl, rfl⟩ := Prod.mk.inj heq
      obtain rfl := Option.some.inj hi
      cases hother
    · obtain ⟨rfl, rfl⟩ := Prod.mk.inj (List.mem_singleton.1 hmem)
      cases hi

def pinnedFound : Shortcut := { titled "B" with url := some "https://e.example/<q>" }

/-- Neither the alternative that is missing nor the last key is looked up among the namespaces of
the finder, which have both. -/
theorem pinned_found :
    Store.AgreeOn pinnedNames pinnedEntries pinnedAmong ∧ pinnedEntries.Closed pinnedNames ∧
    pinnedNames "p" ∧
    (Finder.mk [.official "p", .official "o"] "de").find pinnedAmong.supply "b 1"
      (some [.official "p"]) 4 = .ok (some pinnedFound) := by
  have hname : pinnedNames "p" := .inl rfl
  have hpinned := Finder.find_pinned pinned_agree pinned_closed hname []
    [.official "p", .official "o"] "de" "b 1" 4
  have hfound : (Finder.mk [] "de").find pinnedEntries.supply "b 1" (some [.official "p"]) 4 =
      .ok (some pinnedFound) := rfl
  exact ⟨pinned_agree, pinned_closed, hname, hpinned.1.symm.trans hfound⟩

end Sample

end Shortcuts
