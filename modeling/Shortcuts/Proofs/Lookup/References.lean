import Shortcuts.Proofs.Lookup.Alternatives
import Shortcuts.Proofs.Lookup.Chain
import Shortcuts.Proofs.Lookup.Search
import Shortcuts.Proofs.Resolution.Process

/-!
Depth errors. A lookup is refused as circular only where as many references as its depth lead one
behind the other from its key to the one that is named. So entries whose references never lead
that far are not refused.
-/
namespace Shortcuts

namespace Lookup

/-- The entry that decides on a key includes a reference, in whatever list, to another key. Both
keys come with the namespaces in which they are looked up. -/
def Refers (store : Store) (language : String) (p q : List Source × String) : Prop :=
  ∃ e i, store.deciding? p.1 p.2 = some e ∧ e.include? = some i ∧
    ∃ leaf ∈ i.leaves, leaf.target? language p.1 = some q

/-- A number of references that lead one behind the other from a key to another one. -/
inductive Leads (store : Store) (language : String) :
    Nat → List Source × String → List Source × String → Prop
  | here {p} : Leads store language 0 p p
  | refer {n p q r} (h : Refers store language p q) (rest : Leads store language n q r) :
      Leads store language (n + 1) p r

end Lookup

/-- Nowhere do as many references lead one behind the other as the greatest depth. -/
def Store.Shallow (store : Store) (language : String) : Prop :=
  ∀ n p q, Lookup.Leads store language n p q → n < maxIncludeDepth

namespace Lookup

variable {store : Store} {language : String}

/-- An entry is refused as circular only if a lookup for one of its leaves is. -/
theorem exists_target_of_circular {find : List Source → String → Except Failure (Option Shortcut)}
    {namespaces : List Source} {e : Entry} {k : String}
    (h : resolveEntry language find namespaces e = .error (.circularInclusion k)) :
    ∃ i, e.include? = some i ∧ ∃ leaf ∈ i.leaves, ∃ within key,
      leaf.target? language namespaces = some (within, key) ∧
      find within key = .error (.circularInclusion k) := by
  cases hinclude : e.include? with
  | none =>
    rw [resolveEntry_of_plain _ _ _ hinclude] at h
    cases h
  | some i =>
    rw [resolveEntry_of_include _ _ _ hinclude] at h
    have hfailed := Except.map_eq_error_iff.1 h
    obtain ⟨leaf, hleaf, hfails⟩ := exists_leaf_of_included (by simp) hfailed
    refine ⟨i, rfl, leaf, hleaf, ?_⟩
    have hcases := (Include.isLeaf_of_mem_leaves hleaf).target?_cases language namespaces
    rcases hcases with ⟨within, key, hq⟩ | ⟨value, rfl⟩
    · rw [included_of_target _ _ _ hq] at hfails
      exact ⟨within, key, hq, hfails⟩
    · cases hfails

theorem leads_of_find {depth : Nat} {namespaces : List Source} {key k : String}
    (h : find store.supply language depth namespaces key = .error (.circularInclusion k)) :
    ∃ within, Leads store language depth (namespaces, key) (within, k) := by
  induction depth generalizing namespaces key with
  | zero =>
    cases h
    exact ⟨namespaces, .here⟩
  | succ depth ih =>
    obtain ⟨e, hentry, h⟩ := exists_deciding_of_find store language h nofun
    -- The failure comes from a lookup one step less deep, in the namespaces of the reference.
    obtain ⟨i, hi, leaf, hleaf, within, key', hq, hfails⟩ := exists_target_of_circular h
    obtain ⟨last, hrest⟩ := ih hfails
    exact ⟨last, .refer ⟨e, i, hentry, hi, leaf, hleaf, hq⟩ hrest⟩

/-- Where every reference goes down in rank, the rank bounds how far references lead. -/
theorem Leads.le_rank {rank : String → Nat}
    (hrank : ∀ p q, Refers store language p q → rank q.2 < rank p.2) {n : Nat}
    {p q : List Source × String} (h : Leads store language n p q) : n ≤ rank p.2 := by
  induction h with
  | here => exact Nat.zero_le _
  | refer h rest ih => exact Nat.le_trans (Nat.succ_le_succ ih) (hrank _ _ h)

end Lookup

namespace Finder

open Lookup

/-- A lookup is refused as circular only at a key that as many references as its depth lead to.
Where references lead less far than the greatest depth, no lookup and no search is refused. -/
theorem leads_of_circular (f : Finder) (store : Store) :
    (∀ key override depth k,
      f.find store.supply key override depth = .error (.circularInclusion k) →
      ∃ within, Leads store f.language depth (override.getD f.namespaces, key) (within, k)) ∧
    (store.Shallow f.language → ∀ k,
      (∀ key override,
        f.find store.supply key override maxIncludeDepth ≠ .error (.circularInclusion k)) ∧
      (∀ keyword count, f.findKeyword store.supply keyword count ≠ .error (.circularInclusion k)) ∧
      ∀ query, f.search store.supply query ≠ .error (.circularInclusion k)) := by
  simp only [find_eq]
  refine ⟨fun key override depth k h => leads_of_find h, fun hshallow k => ?_⟩
  have hfind : ∀ namespaces key,
      Lookup.find store.supply f.language maxIncludeDepth namespaces key ≠
        .error (.circularInclusion k) := by
    intro namespaces key h
    obtain ⟨within, hleads⟩ := leads_of_find h
    exact Nat.lt_irrefl _ (hshallow _ _ _ hleads)
  refine ⟨fun key override => hfind _ key, fun keyword count h => ?_, fun query h => ?_⟩
  · rw [findKeyword_supply] at h
    obtain ⟨c, hc⟩ := f.findCount_error store keyword h
    rw [find_eq] at hc
    exact hfind _ _ hc
  · obtain ⟨e, he⟩ := f.search_error store query h
    rw [resolve_eq] at he
    obtain ⟨_, _, _, _, within, key, _, hfails⟩ := exists_target_of_circular he
    exact hfind within key hfails

end Finder

namespace Sample

/-- An entry that leads into another namespace, where two entries include each other. -/
def roundabout : Store
  | .official "o" => some (.ofList [
    ("a 1", including (.list [.key "missing 1", .list [.reference "b 1" (some "p")]]) .empty),
    ("b 1", .short "https://b.example/")])
  | .official "p" => some (.ofList [
    ("b 1", including (.key "c-<$language> 1") .empty),
    ("c-de 1", including (.list [.list [], .reference "b 1" none]) (titled "C"))])
  | _ => none

/-- How many references follow a key at most. -/
def chainedRank (key : String) : Nat :=
  if key = "a 1" then 2 else if key = "b-de 1" then 1 else 0

theorem chained_shallow : chained.Shallow finder.language := by
  have hdown : ∀ p q, Lookup.Refers chained finder.language p q →
      chainedRank q.2 < chainedRank p.2 := by
    rintro ⟨namespaces, key⟩ q ⟨e, i, he, hi, leaf, hleaf, hq⟩
    obtain ⟨s, _, hs⟩ := List.exists_of_findSome?_eq_some he
    rcases chained_include? hs hi with ⟨rfl, rfl⟩ | ⟨rfl, rfl⟩
    · obtain rfl := List.mem_singleton.1 hleaf
      obtain rfl := Option.some.inj hq
      change chainedRank (Lookup.includeKey finder.language "b-<$language> 1") < chainedRank "a 1"
      decide +kernel
    · obtain rfl := List.mem_singleton.1 hleaf
      obtain rfl := Option.some.inj hq
      change chainedRank (Lookup.includeKey finder.language "c 1") < chainedRank "b-de 1"
      decide +kernel
  intro n p q hleads
  have hlong := hleads.le_rank hdown
  have hrank : chainedRank p.2 ≤ 2 := by
    unfold chainedRank
    split
    · omega
    · split <;> omega
  have hdepth : maxIncludeDepth = 10 := rfl
  omega

/-- Four references lead to where the lookup gives up, the first of them out of the namespaces
of the finder. The chained entries are never refused. -/
theorem roundabout_refused :
    finder.find roundabout.supply "a 1" none 4 = .error (.circularInclusion "c-de 1") ∧
    (∃ within, Lookup.Leads roundabout "de" 4 (finder.namespaces, "a 1") (within, "c-de 1")) ∧
    chained.Shallow finder.language ∧
    ∀ k, finder.find chained.supply "a 1" none maxIncludeDepth ≠ .error (.circularInclusion k) := by
  have hrefused : finder.find roundabout.supply "a 1" none 4 =
      .error (.circularInclusion "c-de 1") := rfl
  have hleads := (finder.leads_of_circular roundabout).1 "a 1" none 4 "c-de 1" hrefused
  have hkept := (finder.leads_of_circular chained).2 chained_shallow
  exact ⟨hrefused, hleads, chained_shallow, fun k => (hkept k).1 "a 1" none⟩

end Sample

end Shortcuts
