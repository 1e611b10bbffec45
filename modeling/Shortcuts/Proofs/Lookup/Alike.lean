import Shortcuts.Proofs.Lookup.Counting
import Shortcuts.Proofs.Lookup.Listing

/-!
Stores whose entries resolve alike. Nothing but what its entries resolve to matters of a store, so
where two stores have under each key entries that resolve alike, every lookup and every search
gives the same.
-/
namespace Option

variable {α β : Type} {R : α → β → Prop} {a : Option α} {b : Option β}

theorem rel_cases (h : Rel R a b) :
    (a = none ∧ b = none) ∨ ∃ x y, a = some x ∧ b = some y ∧ R x y := by
  cases h with
  | none => exact .inl ⟨rfl, rfl⟩
  | some hxy => exact .inr ⟨_, _, rfl, rfl, hxy⟩

end Option

namespace Shortcuts

open Lookup

/-- The entries resolve to the same, whatever the lookups for their includes give. -/
def Entry.Alike (e e' : Entry) : Prop :=
  ∀ (language : String) (find : List Source → String → Except Failure (Option Shortcut))
    (namespaces : List Source),
    resolveEntry language find namespaces e' = resolveEntry language find namespaces e

theorem Entry.Alike.refl (e : Entry) : e.Alike e := fun _ _ _ => rfl

def Store.Alike (store store' : Store) : Prop :=
  ∀ s key, Option.Rel Entry.Alike (store.entry? s key) (store'.entry? s key)

namespace Store.Alike

variable {store store' : Store} (h : store.Alike store')

include h

theorem deciding? (namespaces : List Source) (key : String) :
    Option.Rel Entry.Alike (store.deciding? namespaces key) (store'.deciding? namespaces key) := by
  induction namespaces with
  | nil => exact .none
  | cons s rest ih =>
    rw [deciding?_cons, deciding?_cons]
    rcases Option.rel_cases ih with ⟨hnone, hnone'⟩ | ⟨e, e', he, he', halike⟩
    · rw [hnone, hnone', Option.none_or, Option.none_or]
      exact h s key
    · rw [he, he', Option.some_or, Option.some_or]
      exact .some halike

theorem find (language : String) (depth : Nat) :
    Lookup.find store'.supply language depth = Lookup.find store.supply language depth := by
  induction depth with
  | zero => rfl
  | succ depth ih =>
    funext namespaces key
    rw [find_succ, find_succ, ih]
    rcases Option.rel_cases (h.deciding? namespaces key) with
      ⟨hnone, hnone'⟩ | ⟨e, e', he, he', halike⟩
    · rw [hnone, hnone']
    · rw [he, he']
      exact halike language _ namespaces

variable (f : Finder)

theorem findKeyword (keyword : String) (count : Nat) :
    f.findKeyword store'.supply keyword count = f.findKeyword store.supply keyword count := by
  rw [Finder.findKeyword_supply, Finder.findKeyword_supply]
  induction count with
  | zero => rfl
  | succ count ih =>
    rw [Finder.findCount_succ, Finder.findCount_succ, ih, Finder.find_eq, Finder.find_eq, h.find]

theorem resolve {e e' : Entry} (he : e.Alike e') : f.resolve store' e' = f.resolve store e := by
  rw [Finder.resolve_eq, Finder.resolve_eq, h.find]
  exact he _ _ _

theorem resolves_iff (s : Source) (key : String) :
    (∀ e, store'.entry? s key = some e → ∃ r, f.resolve store' e = .ok r) ↔
      ∀ e, store.entry? s key = some e → ∃ r, f.resolve store e = .ok r := by
  rcases Option.rel_cases (h s key) with ⟨hnone, hnone'⟩ | ⟨e, e', he, he', halike⟩
  · rw [hnone, hnone']
    exact ⟨fun _ => nofun, fun _ => nofun⟩
  · simp only [he, he', Option.some.injEq, forall_eq', h.resolve f halike]

theorem bind_hit? (query : String) (s : Source) (key : String) :
    (store'.entry? s key).bind (f.hit? store' query) =
      (store.entry? s key).bind (f.hit? store query) := by
  rcases Option.rel_cases (h s key) with ⟨hnone, hnone'⟩ | ⟨e, e', he, he', halike⟩
  · rw [hnone, hnone', Option.bind_none, Option.bind_none]
  · rw [he, he', Option.bind_some, Option.bind_some, Finder.hit?, Finder.hit?, h.resolve f halike]

/-- The entries may be visited in another order too. -/
theorem search (query : String) {results : KeyMap Shortcut} :
    f.search store'.supply query = .ok results ↔ f.search store.supply query = .ok results := by
  rw [Finder.search_eq_ok_iff, Finder.search_eq_ok_iff]
  simp only [h.resolves_iff, h.bind_hit?]

end Store.Alike

end Shortcuts
