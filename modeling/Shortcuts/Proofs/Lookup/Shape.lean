import Shortcuts.Proofs.Lookup.Alike
import Shortcuts.Proofs.Lookup.Alternatives

/-!
The shape of includes. An include has a normal form without lists in lists, without references
that say no more than their key, and without lists of one. With all includes in normal form every
lookup and every search gives what it gave before.
-/
namespace Shortcuts

namespace Include

/-! ## Normal forms -/

/-- A reference without a namespace as a key. -/
def plain : Include → Include
  | .reference k none => .key k
  | i => i

/-- A list of alternatives, of which a single one stands for itself. -/
def ofAlternatives : List Include → Include
  | [i] => i
  | alternatives => .list alternatives

def normal (i : Include) : Include := ofAlternatives (i.leaves.map plain)

def IsPlain : Include → Prop
  | .key _ | .reference _ (some _) | .unrecognized _ => True
  | .reference _ none | .list _ => False

def IsNormal : Include → Prop
  | .list alternatives => alternatives.length ≠ 1 ∧ ∀ i ∈ alternatives, i.IsPlain
  | i => i.IsPlain

theorem IsLeaf.isPlain_plain {i : Include} (h : i.IsLeaf) : i.plain.IsPlain := by
  match i with
  | .key _ | .reference _ none | .reference _ (some _) | .unrecognized _ => trivial

theorem IsPlain.isLeaf {i : Include} (h : i.IsPlain) : i.IsLeaf := by
  match i with
  | .key _ | .reference _ (some _) | .unrecognized _ => trivial

theorem IsLeaf.leaves_eq {i : Include} (h : i.IsLeaf) : i.leaves = [i] := by
  match i with
  | .key _ | .reference .. | .unrecognized _ => rfl

theorem IsPlain.isNormal {i : Include} (h : i.IsPlain) : i.IsNormal := by
  match i with
  | .key _ | .reference _ (some _) | .unrecognized _ => trivial

theorem isNormal_ofAlternatives {alternatives : List Include}
    (h : ∀ i ∈ alternatives, i.IsPlain) : (ofAlternatives alternatives).IsNormal := by
  match alternatives with
  | [] => exact ⟨by simp, h⟩
  | [i] => exact (h i (List.mem_singleton_self i)).isNormal
  | i :: j :: rest => exact ⟨by simp, h⟩

theorem leaves_list_of_isLeaf {alternatives : List Include} (h : ∀ i ∈ alternatives, i.IsLeaf) :
    (Include.list alternatives).leaves = alternatives := by
  induction alternatives with
  | nil => rfl
  | cons i rest ih =>
    rw [List.forall_mem_cons] at h
    rw [leaves_list_cons, h.1.leaves_eq, ih h.2]
    rfl

theorem leaves_ofAlternatives (alternatives : List Include) :
    (ofAlternatives alternatives).leaves = (Include.list alternatives).leaves := by
  match alternatives with
  | [] => rfl
  | [i] => rw [ofAlternatives, leaves_list_cons, leaves_list_nil, List.append_nil]
  | i :: j :: rest => rfl

theorem isPlain_of_mem_plainLeaves {i leaf : Include} (h : leaf ∈ i.leaves.map plain) :
    leaf.IsPlain := by
  obtain ⟨j, hj, rfl⟩ := List.mem_map.1 h
  exact (isLeaf_of_mem_leaves hj).isPlain_plain

theorem isNormal_normal (i : Include) : i.normal.IsNormal :=
  isNormal_ofAlternatives fun _ h => isPlain_of_mem_plainLeaves h

theorem leaves_normal (i : Include) : i.normal.leaves = i.leaves.map plain := by
  rw [normal, leaves_ofAlternatives]
  exact leaves_list_of_isLeaf fun _ h => (isPlain_of_mem_plainLeaves h).isLeaf

end Include

/-- The entry with its include in normal form. -/
def Entry.normal : Entry → Entry
  | .short template => .short template
  | .full ⟨i, own⟩ => .full ⟨i.map Include.normal, own⟩

/-- The same entries with all includes in normal form. -/
def Store.normal (store : Store) : Store := fun s => (store s).map (Table.map Entry.normal)

theorem Entry.include?_normal (e : Entry) : e.normal.include? = e.include?.map Include.normal := by
  cases e <;> rfl

theorem Entry.own_normal (e : Entry) : e.normal.own = e.own := by
  cases e <;> rfl

namespace Store

variable (store : Store)

theorem entry?_normal (s : Source) (key : String) :
    store.normal.entry? s key = (store.entry? s key).map Entry.normal := by
  unfold entry? normal
  cases store s with
  | none => rfl
  | some entries => exact entries.get?_map Entry.normal key

end Store

/-! ## Lookups -/

namespace Lookup

section Resolving

variable (language : String) (find : List Source → String → Except Failure (Option Shortcut))
  (namespaces : List Source)

theorem included_plain (i : Include) :
    included language find namespaces i.plain = included language find namespaces i := by
  match i with
  | .reference _ none => rfl
  | .key _ | .reference _ (some _) | .list _ | .unrecognized _ => rfl

theorem included_ofAlternatives (alternatives : List Include) :
    included language find namespaces (.ofAlternatives alternatives) =
      included language find namespaces (.list alternatives) := by
  match alternatives with
  | [] => rfl
  | [i] => exact (included_list_singleton language find namespaces i).symm
  | i :: j :: rest => rfl

theorem included_normal (i : Include) :
    included language find namespaces i.normal = included language find namespaces i := by
  calc included language find namespaces i.normal
      = included language find namespaces (.list (i.leaves.map Include.plain)) :=
        included_ofAlternatives language find namespaces _
    _ = included language find namespaces (.list i.leaves) :=
        included_list_congr fun leaf _ => included_plain language find namespaces leaf
    _ = included language find namespaces i := included_leaves language find namespaces i

theorem resolveEntry_normal (e : Entry) :
    resolveEntry language find namespaces e.normal = resolveEntry language find namespaces e := by
  cases hinclude : e.include? with
  | none =>
    have hnormal : e.normal.include? = none := by rw [e.include?_normal, hinclude]; rfl
    rw [resolveEntry_of_plain _ _ _ hnormal, resolveEntry_of_plain _ _ _ hinclude, e.own_normal]
  | some i =>
    have hnormal : e.normal.include? = some i.normal := by rw [e.include?_normal, hinclude]; rfl
    rw [resolveEntry_of_include _ _ _ hnormal, resolveEntry_of_include _ _ _ hinclude,
      e.own_normal, included_normal]

end Resolving

end Lookup

theorem Store.alike_normal (store : Store) : store.Alike store.normal := by
  intro s key
  rw [entry?_normal]
  cases store.entry? s key with
  | none => exact .none
  | some e =>
    exact .some fun language find namespaces =>
      Lookup.resolveEntry_normal language find namespaces e

namespace Finder

variable (f : Finder) (store : Store)

theorem find_normal (key : String) (override : Option (List Source)) (depth : Nat) :
    f.find store.normal.supply key override depth = f.find store.supply key override depth := by
  rw [find_eq, find_eq, store.alike_normal.find]

theorem findKeyword_normal (keyword : String) (count : Nat) :
    f.findKeyword store.normal.supply keyword count =
      f.findKeyword store.supply keyword count :=
  store.alike_normal.findKeyword f keyword count

theorem search_normal (query : String) {results : KeyMap Shortcut} :
    f.search store.normal.supply query = .ok results ↔
      f.search store.supply query = .ok results :=
  store.alike_normal.search f query

/-- Every include has a normal form with the same leaves. With all includes in normal form no
lookup gives anything else, and no search lists anything else, in whatever order it visits the
entries. -/
theorem unchanged_by_normal :
    (∀ i : Include, i.normal.IsNormal ∧ i.normal.leaves = i.leaves.map Include.plain) ∧
    (∀ key override depth, f.find store.normal.supply key override depth =
      f.find store.supply key override depth) ∧
    (∀ keyword count, f.findKeyword store.normal.supply keyword count =
      f.findKeyword store.supply keyword count) ∧
    ∀ visited visited' : Store, visited.Reorders store → visited'.Reorders store.normal →
      ∀ query results, f.search visited'.supply query = .ok results ↔
        f.search visited.supply query = .ok results := by
  refine ⟨fun i => ⟨i.isNormal_normal, i.leaves_normal⟩, f.find_normal store,
    f.findKeyword_normal store, ?_⟩
  intro visited visited' hvisited hvisited' query results
  rw [search_reorders _ _ _ hvisited', search_normal, search_reorders _ _ _ hvisited]

end Finder

namespace Sample

/-- An entry whose include has lists in lists and a reference without a namespace. -/
def twisted : Store
  | .official "o" => some (.ofList [
    ("a 1", including (.list [.key "missing 1",
      .list [.list [], .list [.reference "b-<$language> 1" none], .key "c 1"]]) (titled "A")),
    ("b-de 1", including (.list [.reference "c 1" (some "p")]) .empty)])
  | .official "p" => some (.ofList [("c 1", shortcut "C" "https://c.example/<q>")])
  | _ => none

/-- The same entries with their includes written without a detour. -/
def straightened : EntryMap := .ofList [
  ("a 1", including (.list [.key "missing 1", .key "b-<$language> 1", .key "c 1"]) (titled "A")),
  ("b-de 1", including (.reference "c 1" (some "p")) .empty)]

example : twisted.normal (.official "o") = some straightened := rfl

def twistedFound : Shortcut := { titled "A" with url := some "https://c.example/<q>" }

/-- What is found through the twisted include is found through its normal form. -/
theorem twisted_unchanged :
    finder.find twisted.normal.supply "a 1" none 3 = .ok (some twistedFound) ∧
    (reversed twisted).Reorders twisted ∧ (reversed twisted.normal).Reorders twisted.normal ∧
    ∃ results, finder.search (reversed twisted.normal).supply "C.EXAMPLE" = .ok results ∧
      results.get? "a 1" = some twistedFound := by
  obtain ⟨_, hfind, _, hsearch⟩ := finder.unchanged_by_normal twisted
  have hfound : finder.find twisted.supply "a 1" none 3 = .ok (some twistedFound) := rfl
  obtain ⟨results, hresults, hlisted⟩ :
      ∃ results, finder.search (reversed twisted).supply "C.EXAMPLE" = .ok results ∧
        results.get? "a 1" = some twistedFound := ⟨_, rfl, rfl⟩
  have hvisited := reversed_reorders twisted
  have hvisited' := reversed_reorders twisted.normal
  exact ⟨(hfind "a 1" none 3).trans hfound, hvisited, hvisited', results,
    (hsearch _ _ hvisited hvisited' _ _).2 hresults, hlisted⟩

end Sample

end Shortcuts
