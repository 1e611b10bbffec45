import Shortcuts.Proofs.Lookup.Store
import Shortcuts.Sample

/-!
Keywords with a number of arguments. The counts are tried from that number down to one, and the
first at which a lookup does not come to nothing decides, be it with a shortcut or a failure. So
the count goes before the importance of the namespaces.
-/
namespace Shortcuts

namespace Finder

open Lookup

variable (f : Finder) (store : Store) (keyword : String)

theorem findCount_succ (count : Nat) :
    f.findCount store.supply keyword (count + 1) =
      match f.find store.supply (searchKey keyword (count + 1)) none maxIncludeDepth with
      | .ok none => f.findCount store.supply keyword count
      | r => r := by
  rw [findCount]
  generalize f.find store.supply (searchKey keyword (count + 1)) none maxIncludeDepth = found
  change Except.bind found _ = _
  cases found with
  | error failure => rfl
  | ok s => cases s <;> rfl

theorem findKeyword_supply (count : Nat) :
    f.findKeyword store.supply keyword count = f.findCount store.supply keyword count := by
  rw [findKeyword]
  change Except.bind (f.findCount store.supply keyword count) _ = _
  cases f.findCount store.supply keyword count with
  | error failure => rfl
  | ok s => cases s <;> rfl

/-- What is found for the keyword with this very number of arguments. -/
def atCount (count : Nat) : Except Failure (Option Shortcut) :=
  f.find store.supply (searchKey keyword count) none maxIncludeDepth

/-- Of the counts up to a number one has this result, and all greater ones find nothing. -/
structure DecidesAt (count c : Nat) (r : Except Failure (Option Shortcut)) : Prop where
  pos : 1 ≤ c
  le : c ≤ count
  result : f.atCount store keyword c = r
  above : ∀ c', c < c' → c' ≤ count → f.atCount store keyword c' = .ok none

section Deciding

variable {f store keyword} {count c : Nat} {r : Except Failure (Option Shortcut)}

theorem DecidesAt.succ (h : f.DecidesAt store keyword count c r)
    (hnone : f.atCount store keyword (count + 1) = .ok none) :
    f.DecidesAt store keyword (count + 1) c r := by
  refine ⟨h.pos, Nat.le_succ_of_le h.le, h.result, fun c' hc hle => ?_⟩
  by_cases hlast : c' = count + 1
  · rw [hlast, hnone]
  · exact h.above c' hc (by omega)

theorem DecidesAt.of_succ (h : f.DecidesAt store keyword (count + 1) c r) (hc : c ≠ count + 1) :
    f.DecidesAt store keyword count c r := by
  have hle := h.le
  exact ⟨h.pos, by omega, h.result, fun c' hlt hle' => h.above c' hlt (by omega)⟩

theorem decidesAt_self (hpos : 1 ≤ count) (h : f.atCount store keyword count = r) :
    f.DecidesAt store keyword count count r :=
  ⟨hpos, Nat.le_refl count, h, fun _ hlt hle => absurd hlt (Nat.not_lt.2 hle)⟩

end Deciding

/-- A keyword gets what the deciding count gives. -/
theorem findCount_eq_iff {r : Except Failure (Option Shortcut)} (hr : r ≠ .ok none)
    (count : Nat) :
    f.findCount store.supply keyword count = r ↔ ∃ c, f.DecidesAt store keyword count c r := by
  induction count with
  | zero =>
    constructor
    · intro h
      exact absurd h.symm hr
    · rintro ⟨c, h⟩
      exact absurd (Nat.le_trans h.pos h.le) (by omega)
  | succ count ih =>
    rw [findCount_succ, ← atCount]
    split
    · rename_i hnone
      rw [ih]
      constructor
      · rintro ⟨c, h⟩
        exact ⟨c, h.succ hnone⟩
      · rintro ⟨c, h⟩
        have hc : c ≠ count + 1 := by
          rintro rfl
          exact hr (h.result.symm.trans hnone)
        exact ⟨c, h.of_succ hc⟩
    · rename_i hsome
      constructor
      · intro h
        exact ⟨count + 1, decidesAt_self (by omega) h⟩
      · rintro ⟨c, h⟩
        have hle := h.le
        by_cases hc : c = count + 1
        · exact hc ▸ h.result
        · -- A smaller count would decide only if this one found nothing.
          exact absurd (h.above (count + 1) (by omega) (Nat.le_refl _)) hsome

theorem findCount_eq_none_iff (count : Nat) :
    f.findCount store.supply keyword count = .ok none ↔
      ∀ c, 1 ≤ c → c ≤ count → f.atCount store keyword c = .ok none := by
  induction count with
  | zero => exact ⟨fun _ c hpos hle => absurd (Nat.le_trans hpos hle) (by omega), fun _ => rfl⟩
  | succ count ih =>
    rw [findCount_succ, ← atCount]
    split
    · rename_i hnone
      rw [ih]
      constructor
      · intro h c hpos hle
        by_cases hlast : c = count + 1
        · rw [hlast, hnone]
        · exact h c hpos (by omega)
      · intro h c hpos hle
        exact h c hpos (by omega)
    · rename_i hsome
      constructor
      · intro h
        exact absurd h hsome
      · intro h
        exact h (count + 1) (by omega) (Nat.le_refl _)

/-- An entry that no other namespace has decides on its count, also from the least important
namespace. -/
theorem atCount_of_lowest {lowest : Source} {others : List Source} {c : Nat} {e : Entry}
    (hnamespaces : f.namespaces = lowest :: others)
    (hentry : store.entry? lowest (searchKey keyword c) = some e)
    (hothers : ∀ t ∈ others, store.entry? t (searchKey keyword c) = none) :
    f.atCount store keyword c =
      f.resolveEntry (fun key override => f.find store.supply key override (maxIncludeDepth - 1))
        none e := by
  have hnone : store.deciding? others (searchKey keyword c) = none :=
    List.findSome?_eq_none_iff.2 fun t ht => hothers t (List.mem_reverse.1 ht)
  have hdeciding : store.deciding? f.namespaces (searchKey keyword c) = some e := by
    rw [hnamespaces, Store.deciding?_cons, hnone, hentry, Option.none_or]
  rw [atCount, find_eq, maxIncludeDepth, find_succ, Option.getD_none, hdeciding]
  exact (f.resolveEntry_eq (f.find_eq store.supply _) none e).symm

/-- A keyword gets the shortcut or the failure of the greatest count that has one, and nothing if
there is none. An entry of the least important namespace that resolves goes before whatever the
other namespaces have for smaller counts. -/
theorem findKeyword_mostSpecific (count : Nat) :
    (∀ s, f.findKeyword store.supply keyword count = .ok (some s) ↔
      ∃ c, f.DecidesAt store keyword count c (.ok (some s))) ∧
    (∀ failure, f.findKeyword store.supply keyword count = .error failure ↔
      ∃ c, f.DecidesAt store keyword count c (.error failure)) ∧
    (f.findKeyword store.supply keyword count = .ok none ↔
      ∀ c, 1 ≤ c → c ≤ count → f.atCount store keyword c = .ok none) ∧
    f.findKeyword store.supply keyword 0 = .ok none ∧
    ∀ lowest others c e s, f.namespaces = lowest :: others → 1 ≤ c → c ≤ count →
      store.entry? lowest (searchKey keyword c) = some e →
      (∀ t ∈ others, store.entry? t (searchKey keyword c) = none) →
      f.resolveEntry (fun key override => f.find store.supply key override (maxIncludeDepth - 1))
        none e = .ok (some s) →
      (∀ c', c < c' → c' ≤ count → f.atCount store keyword c' = .ok none) →
      f.findKeyword store.supply keyword count = .ok (some s) := by
  rw [findKeyword_supply, findKeyword_supply]
  refine ⟨fun s => f.findCount_eq_iff store keyword (by simp) count,
    fun failure => f.findCount_eq_iff store keyword (by simp) count,
    f.findCount_eq_none_iff store keyword count, rfl, ?_⟩
  intro lowest others c e s hnamespaces hpos hle hentry hothers hresolve habove
  have hresult := f.atCount_of_lowest store keyword hnamespaces hentry hothers
  exact (f.findCount_eq_iff store keyword (by simp) count).2
    ⟨c, hpos, hle, hresult.trans hresolve, habove⟩

end Finder

namespace Sample

/-- A keyword with one argument in the more important namespace and with two in the other one.
With three its include comes to nothing, with four it includes itself. -/
def graded : Store
  | .official "o" => some (.ofList [("g 2", shortcut "Two" "https://two.example/<a>/<b>")])
  | .official ".de" => some (.ofList [
    ("g 1", shortcut "One" "https://one.example/<a>"),
    ("g 3", including (.key "missing 3") (titled "Three")),
    ("g 4", including (.key "g 4") .empty)])
  | _ => none

def gradedTwo : Shortcut := { titled "Two" with url := some "https://two.example/<a>/<b>" }

/-- Three arguments get the shortcut for two, although the more important namespace has one for a
single argument; five get the failure of four. -/
theorem graded_found :
    finder.findKeyword graded.supply "g" 3 = .ok (some gradedTwo) ∧
    finder.findKeyword graded.supply "g" 1 ≠ .ok (some gradedTwo) ∧
    finder.findKeyword graded.supply "g" 5 = .error (.circularInclusion "g 4") := by
  obtain ⟨_, _, _, _, hlowest⟩ := finder.findKeyword_mostSpecific graded "g" 3
  obtain ⟨hone, _⟩ := finder.findKeyword_mostSpecific graded "g" 1
  obtain ⟨_, hfails, _⟩ := finder.findKeyword_mostSpecific graded "g" 5
  have habove : ∀ c', 2 < c' → c' ≤ 3 → finder.atCount graded "g" c' = .ok none := by
    intro c' hlt hle
    obtain rfl : c' = 3 := by omega
    rfl
  have hothers : ∀ t ∈ [Source.official ".de"], graded.entry? t (searchKey "g" 2) = none := by
    intro t ht
    rw [List.mem_singleton.1 ht]
    rfl
  refine ⟨hlowest (.official "o") [.official ".de"] 2 (.full ⟨none, gradedTwo⟩) gradedTwo rfl
    (by omega) (by omega) rfl hothers rfl habove, ?_, ?_⟩
  · intro h
    obtain ⟨c, hdecides⟩ := (hone gradedTwo).1 h
    have hpos := hdecides.pos
    have hle := hdecides.le
    obtain rfl : c = 1 := by omega
    have hresult : finder.atCount graded "g" 1 =
        .ok (some { titled "One" with url := some "https://one.example/<a>" }) := rfl
    have heq := Option.some.inj (Except.ok.inj (hresult.symm.trans hdecides.result))
    exact absurd (congrArg Shortcut.title heq) (by decide)
  · refine (hfails _).2 ⟨4, by omega, by omega, rfl, ?_⟩
    intro c' hlt hle
    obtain rfl : c' = 5 := by omega
    rfl

end Sample

end Shortcuts
