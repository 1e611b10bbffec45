import Shortcuts.Proofs.Lookup.Store
import Shortcuts.Sample

/-!
How many lookups an answer takes that are nested in each other. An answer is reached with every
depth from that number on and with none below it, so what is found below the ceiling does not
depend on the ceiling.
-/
namespace Shortcuts

namespace Lookup

/-- What can be asked for among some namespaces. -/
inductive Goal where
  | lookup (key : String)
  | inclusion (i : Include)

/-- The result of a goal, reached by as many lookups nested in each other as the number says. -/
inductive Answers (store : Store) (language : String) :
    Nat → List Source → Goal → Except Failure (Option Shortcut) → Prop
  | absent {namespaces key} (h : store.deciding? namespaces key = none) :
      Answers store language 1 namespaces (.lookup key) (.ok none)
  | plain {namespaces key e} (h : store.deciding? namespaces key = some e)
      (hi : e.include? = none) :
      Answers store language 1 namespaces (.lookup key) (.ok (some e.own))
  | including {n namespaces key e i r} (h : store.deciding? namespaces key = some e)
      (hi : e.include? = some i) (below : Answers store language n namespaces (.inclusion i) r) :
      Answers store language (n + 1) namespaces (.lookup key)
        (r.map (Option.map e.own.mergedOver))
  | reference {n namespaces i within key r}
      (h : i.target? language namespaces = some (within, key))
      (below : Answers store language n within (.lookup key) r) :
      Answers store language n namespaces (.inclusion i) r
  | exhausted {namespaces} : Answers store language 0 namespaces (.inclusion (.list [])) (.ok none)
  | first {n namespaces i rest r} (hr : r ≠ .ok none)
      (h : Answers store language n namespaces (.inclusion i) r) :
      Answers store language n namespaces (.inclusion (.list (i :: rest))) r
  | next {n m namespaces i rest r}
      (h : Answers store language n namespaces (.inclusion i) (.ok none))
      (hrest : Answers store language m namespaces (.inclusion (.list rest)) r) :
      Answers store language (max n m) namespaces (.inclusion (.list (i :: rest))) r
  | unrecognized {namespaces value} :
      Answers store language 0 namespaces (.inclusion (.unrecognized value))
        (.error (.invalidInclude value.render))

variable (store : Store) (language : String)

/-- What a limited depth makes of a goal. -/
def attempt (depth : Nat) (namespaces : List Source) : Goal → Except Failure (Option Shortcut)
  | .lookup key => find store.supply language depth namespaces key
  | .inclusion i => included language (find store.supply language depth) namespaces i

/-- A result other than that the depth did not suffice. -/
def Definite (r : Except Failure (Option Shortcut)) : Prop :=
  ∀ key, r ≠ .error (.circularInclusion key)

variable {store language}

theorem definite_of_map {r : Except Failure (Option Shortcut)}
    {f : Option Shortcut → Option Shortcut} (h : Definite (r.map f)) : Definite r := by
  rintro key rfl
  exact h key rfl

section Alternatives

variable {depth : Nat} {namespaces : List Source} {i : Include} {rest : List Include}

theorem attempt_cons_of_none
    (h : attempt store language depth namespaces (.inclusion i) = .ok none) :
    attempt store language depth namespaces (.inclusion (.list (i :: rest))) =
      attempt store language depth namespaces (.inclusion (.list rest)) := by
  rw [attempt] at h
  rw [attempt, included_list_cons, h]
  rfl

theorem attempt_cons_of_ne
    (h : attempt store language depth namespaces (.inclusion i) ≠ .ok none) :
    attempt store language depth namespaces (.inclusion (.list (i :: rest))) =
      attempt store language depth namespaces (.inclusion i) := by
  rw [attempt] at h
  rw [attempt, attempt, included_list_cons]
  split
  · exact absurd ‹_› h
  · rfl

end Alternatives

theorem Answers.attempt_eq {n : Nat} {namespaces : List Source} {g : Goal}
    {r : Except Failure (Option Shortcut)} (h : Answers store language n namespaces g r)
    {depth : Nat} (hn : n ≤ depth) : attempt store language depth namespaces g = r := by
  induction h generalizing depth with
  | absent h =>
    obtain ⟨d, rfl⟩ : ∃ d, depth = d + 1 := ⟨depth - 1, by omega⟩
    rw [attempt, find_succ, h]
  | plain h hi =>
    obtain ⟨d, rfl⟩ : ∃ d, depth = d + 1 := ⟨depth - 1, by omega⟩
    rw [attempt, find_succ, h]
    exact resolveEntry_of_plain _ _ _ hi
  | including h hi below ih =>
    obtain ⟨d, rfl⟩ : ∃ d, depth = d + 1 := ⟨depth - 1, by omega⟩
    have hbelow := ih (show _ ≤ d by omega)
    rw [attempt] at hbelow
    rw [attempt, find_succ, h]
    exact (resolveEntry_of_include _ _ _ hi).trans (by rw [hbelow])
  | reference h below ih =>
    rw [attempt, included_of_target _ _ _ h]
    exact ih hn
  | exhausted => rw [attempt, included_list_nil]
  | @first n namespaces i rest r hr h ih =>
    have hfirst : attempt store language depth namespaces (.inclusion i) = r := ih hn
    rw [← hfirst] at hr
    exact (attempt_cons_of_ne hr).trans hfirst
  | @next n m namespaces i rest r h hrest ih ihrest =>
    have hfirst := ih (show n ≤ depth by omega)
    exact (attempt_cons_of_none hfirst).trans (ihrest (show m ≤ depth by omega))
  | unrecognized => rw [attempt, included_unrecognized]

/-- With any smaller depth the answer is out of reach. -/
theorem Answers.attempt_of_lt {n : Nat} {namespaces : List Source} {g : Goal}
    {r : Except Failure (Option Shortcut)} (h : Answers store language n namespaces g r)
    {depth : Nat} (hn : depth < n) :
    ∃ key, attempt store language depth namespaces g = .error (.circularInclusion key) := by
  induction h generalizing depth with
  | @absent namespaces key h =>
    obtain rfl : depth = 0 := by omega
    exact ⟨key, find_zero store language namespaces key⟩
  | @plain namespaces key e h hi =>
    obtain rfl : depth = 0 := by omega
    exact ⟨key, find_zero store language namespaces key⟩
  | @including n namespaces key e i r h hi below ih =>
    cases depth with
    | zero => exact ⟨key, find_zero store language namespaces key⟩
    | succ d =>
      obtain ⟨k, hk⟩ := ih (show d < n by omega)
      rw [attempt] at hk
      refine ⟨k, ?_⟩
      rw [attempt, find_succ, h]
      exact (resolveEntry_of_include _ _ _ hi).trans (by rw [hk]; rfl)
  | reference h below ih =>
    rw [attempt, included_of_target _ _ _ h]
    exact ih hn
  | exhausted => omega
  | first hr h ih =>
    obtain ⟨k, hk⟩ := ih hn
    exact ⟨k, (attempt_cons_of_ne (by simp [hk])).trans hk⟩
  | @next n m namespaces i rest r h hrest ih ihrest =>
    by_cases hfirst : depth < n
    · obtain ⟨k, hk⟩ := ih hfirst
      exact ⟨k, (attempt_cons_of_ne (by simp [hk])).trans hk⟩
    · obtain ⟨k, hk⟩ := ihrest (show depth < m by omega)
      have hnone := h.attempt_eq (show n ≤ depth by omega)
      exact ⟨k, (attempt_cons_of_none hnone).trans hk⟩
  | unrecognized => omega

/-- Unless the depth does not suffice, the result of a goal is an answer to it. -/
def Covered (store : Store) (language : String) (depth : Nat) (namespaces : List Source)
    (g : Goal) : Prop :=
  Definite (attempt store language depth namespaces g) →
    ∃ n ≤ depth, Answers store language n namespaces g (attempt store language depth namespaces g)

theorem covered_of_target {depth : Nat}
    (hlookup : ∀ namespaces key, Covered store language depth namespaces (.lookup key))
    {i : Include} {namespaces within : List Source} {key : String}
    (h : i.target? language namespaces = some (within, key)) :
    Covered store language depth namespaces (.inclusion i) := by
  have heq : attempt store language depth namespaces (.inclusion i) =
      attempt store language depth within (.lookup key) := included_of_target _ _ _ h
  intro hi
  rw [heq] at hi ⊢
  obtain ⟨n, hn, hanswer⟩ := hlookup within key hi
  exact ⟨n, hn, .reference h hanswer⟩

theorem covered_cons {depth : Nat} {namespaces : List Source} {i : Include} {rest : List Include}
    (hfirst : Covered store language depth namespaces (.inclusion i))
    (hrest : Covered store language depth namespaces (.inclusion (.list rest))) :
    Covered store language depth namespaces (.inclusion (.list (i :: rest))) := by
  intro h
  by_cases hnone : attempt store language depth namespaces (.inclusion i) = .ok none
  · rw [attempt_cons_of_none hnone] at h ⊢
    have hi : Definite (attempt store language depth namespaces (.inclusion i)) := by
      intro key hkey
      simp [hnone] at hkey
    obtain ⟨n, hn, hanswer⟩ := hfirst hi
    obtain ⟨m, hm, hanswers⟩ := hrest h
    rw [hnone] at hanswer
    exact ⟨max n m, by omega, .next hanswer hanswers⟩
  · rw [attempt_cons_of_ne hnone] at h ⊢
    obtain ⟨n, hn, hanswer⟩ := hfirst h
    exact ⟨n, hn, .first hnone hanswer⟩

theorem covered_inclusion {depth : Nat}
    (hlookup : ∀ namespaces key, Covered store language depth namespaces (.lookup key))
    (i : Include) (namespaces : List Source) :
    Covered store language depth namespaces (.inclusion i) := by
  induction i using Include.alternativesInduction with
  | key k => exact covered_of_target hlookup rfl
  | reference k within =>
    cases within with
    | none => exact covered_of_target hlookup rfl
    | some name => exact covered_of_target hlookup rfl
  | unrecognized v => exact fun _ => ⟨0, Nat.zero_le _, .unrecognized⟩
  | nil => exact fun _ => ⟨0, Nat.zero_le _, .exhausted⟩
  | cons i rest ih ihrest => exact covered_cons ih ihrest

theorem covered_lookup (depth : Nat) (namespaces : List Source) (key : String) :
    Covered store language depth namespaces (.lookup key) := by
  induction depth generalizing namespaces key with
  | zero => exact fun h => absurd (find_zero store language namespaces key) (h key)
  | succ depth ih =>
    intro h
    rw [attempt, find_succ] at h ⊢
    cases hentry : store.deciding? namespaces key with
    | none => exact ⟨1, by omega, .absent hentry⟩
    | some e =>
      simp only [hentry] at h ⊢
      cases hinclude : e.include? with
      | none =>
        rw [resolveEntry_of_plain _ _ _ hinclude]
        exact ⟨1, by omega, .plain hentry hinclude⟩
      | some i =>
        rw [resolveEntry_of_include _ _ _ hinclude] at h ⊢
        obtain ⟨n, hn, hanswer⟩ := covered_inclusion ih i namespaces (definite_of_map h)
        exact ⟨n + 1, by omega, .including hentry hinclude hanswer⟩

theorem covered (depth : Nat) (namespaces : List Source) (g : Goal) :
    Covered store language depth namespaces g := by
  cases g with
  | lookup key => exact covered_lookup depth namespaces key
  | inclusion i => exact covered_inclusion (covered_lookup depth) i namespaces

/-- The failures that a lookup among fixed entries can end with. -/
inductive Fails : Failure → Prop
  | circular (key : String) : Fails (.circularInclusion key)
  | unrecognized (definition : String) : Fails (.invalidInclude definition)

theorem Answers.error {n : Nat} {namespaces : List Source} {g : Goal}
    {r : Except Failure (Option Shortcut)} (h : Answers store language n namespaces g r)
    {failure : Failure} (hr : r = .error failure) : Fails failure := by
  induction h with
  | absent => cases hr
  | plain => cases hr
  | @including n namespaces key e i r h hi below ih =>
    exact ih (Except.map_eq_error_iff.1 hr)
  | reference h below ih => exact ih hr
  | exhausted => cases hr
  | first hne h ih => exact ih hr
  | next h hrest ih ihrest => exact ihrest hr
  | @unrecognized namespaces value =>
    cases hr
    exact .unrecognized value.render

theorem attempt_error {depth : Nat} {namespaces : List Source} {g : Goal} {failure : Failure}
    (h : attempt store language depth namespaces g = .error failure) : Fails failure := by
  by_cases hdefinite : Definite (attempt store language depth namespaces g)
  · obtain ⟨n, _, hanswer⟩ := covered depth namespaces g hdefinite
    exact hanswer.error h
  · obtain ⟨key, hkey⟩ := Classical.not_forall.1 hdefinite
    have heq := h.symm.trans (Classical.not_not.1 hkey)
    obtain rfl := Except.error.inj heq
    exact .circular key

end Lookup

namespace Finder

open Lookup

theorem find_eq_attempt (f : Finder) (store : Store) (key : String)
    (override : Option (List Source)) (depth : Nat) :
    f.find store.supply key override depth =
      attempt store f.language depth (override.getD f.namespaces) (.lookup key) :=
  f.find_eq store.supply depth key override

/-- A greater depth changes no result but the one that the depth did not suffice. -/
theorem find_eq_of_depth_le (f : Finder) (store : Store) (key : String)
    (override : Option (List Source)) {d d' : Nat} (hd : d ≤ d')
    (h : ∀ k, f.find store.supply key override d ≠ .error (.circularInclusion k)) :
    f.find store.supply key override d' = f.find store.supply key override d := by
  simp only [find_eq_attempt] at h ⊢
  obtain ⟨n, hn, hanswer⟩ := covered d (override.getD f.namespaces) (.lookup key) h
  exact hanswer.attempt_eq (show n ≤ d' by omega)

end Finder

namespace Sample

/-- The third alternative would be circular, but the second is found at depth three. -/
theorem branching_found :
    (∀ k, finder.find branching.supply "a 1" none 3 ≠ .error (.circularInclusion k)) ∧
    finder.find branching.supply "a 1" none 10 = finder.find branching.supply "a 1" none 3 := by
  have hfound : finder.find branching.supply "a 1" none 3 =
      .ok (some { titled "A" with url := some "https://c.example/<q>" }) := rfl
  have hdefinite : ∀ k, finder.find branching.supply "a 1" none 3 ≠
      .error (.circularInclusion k) := by
    intro k hk
    simp [hfound] at hk
  exact ⟨hdefinite, finder.find_eq_of_depth_le branching "a 1" none (by omega) hdefinite⟩

end Sample

end Shortcuts
