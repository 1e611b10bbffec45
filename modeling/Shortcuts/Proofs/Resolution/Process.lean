import Shortcuts.Proofs.Lookup.Counting
import Shortcuts.Proofs.Lookup.Nesting
import Shortcuts.Proofs.Template.Layout
import Shortcuts.Resolution

/-!
Queries in fixed entries. Either the lookup for the query decides on the outcome, or it finds
nothing and the default keyword does. Which failures can come from where is told apart by their
form.
-/
namespace Shortcuts

namespace Finder

variable (f : Finder) (store : Store) (keyword : String)

theorem findCount_error {count : Nat} {failure : Failure}
    (h : f.findCount store.supply keyword count = .error failure) :
    ∃ c, f.find store.supply (searchKey keyword c) none maxIncludeDepth = .error failure := by
  obtain ⟨c, hdecides⟩ := (f.findCount_eq_iff store keyword (by simp) count).1 h
  exact ⟨c, hdecides.result⟩

theorem findKeyword_error {count : Nat} {failure : Failure}
    (h : f.findKeyword store.supply keyword count = .error failure) : Lookup.Fails failure := by
  rw [findKeyword_supply] at h
  obtain ⟨c, hfind⟩ := f.findCount_error store keyword h
  rw [find_eq_attempt] at hfind
  exact Lookup.attempt_error hfind

end Finder

namespace Template

theorem Setting.value_error {s : Setting} {token : String} {failure : Failure}
    (h : s.value token = .error failure) :
    failure = .invalidVariablePlaceholder token ∨ failure = .invalidNowPlaceholder token := by
  unfold Setting.value at h
  split at h
  · cases h
  · split at h
    · cases h
    · split at h
      · split at h
        · cases h
        · exact .inr (Except.error.inj h).symm
      · exact .inl (Except.error.inj h).symm

/-- Only a variable without a value keeps a template from being filled. -/
theorem Setting.expand_error {s : Setting} {template : String} {arguments : List String}
    {failure : Failure} (h : s.expand template arguments = .error failure) :
    ∃ token, failure = .invalidVariablePlaceholder token ∨
      failure = .invalidNowPlaceholder token := by
  rw [s.expand_eq] at h
  cases hfirst : (placeholders template.toList).findSome? s.failure? with
  | none => simp [hfirst] at h
  | some failure' =>
    simp only [hfirst] at h
    obtain rfl := Except.error.inj h
    obtain ⟨p, _, hp⟩ := List.exists_of_findSome?_eq_some hfirst
    rw [Setting.failure?] at hp
    split at hp
    · cases hvalue : s.value (String.ofList p.pattern) with
      | ok value => simp [hvalue] at hp
      | error failure =>
        simp only [hvalue, Option.some.injEq] at hp
        exact ⟨_, Setting.value_error (hp ▸ hvalue)⟩
    · cases hp

theorem fillQuery_error {template : String} {arguments : List String} {failure : Failure}
    (h : fillQuery template arguments = .error failure) :
    ∃ slots, failure = .alternativeArgumentMismatch slots arguments.length := by
  unfold fillQuery at h
  simp only at h
  split at h
  · cases h
  · cases h
    exact ⟨_, rfl⟩

end Template

namespace Environment

section Opening

variable {e : Environment} {clock : Template.Clock} {s : Shortcut} {failure : Failure}

/-- Where a shortcut that was found cannot be opened, the data is at fault. -/
theorem open?_error {keyword : String} {arguments : List String}
    (h : e.open? clock keyword arguments s = .error failure) : failure.kind = .dataDefinition := by
  rw [open?] at h
  split at h
  · obtain rfl := Except.error.inj h
    rfl
  · obtain ⟨token, rfl | rfl⟩ := Template.Setting.expand_error (Except.map_eq_error_iff.1 h)
    · rfl
    · rfl

theorem outcome_error {q : Query} (h : e.outcome clock q s = .error failure) :
    failure.kind = .dataDefinition := by
  rw [outcome] at h
  split at h
  · exact open?_error h
  · cases h
  · obtain ⟨slots, rfl⟩ := Template.fillQuery_error (Except.map_eq_error_iff.1 h)
    rfl

end Opening

variable (e : Environment) (store : Store) (clock : Template.Clock) (text : String)

/-- The lookup for a text, in the environment as its prefixes adjust it. -/
def lookUp : Except Failure (Option Shortcut) :=
  (e.adjusted (Query.parse text)).finder.findKeyword store.supply (Query.parse text).keyword
    (Query.parse text).arguments.length

private theorem ofExcept_eq {α : Type} (r : Except Failure α) :
    (MonadExcept.ofExcept r : Except Failure α) = r := by
  cases r <;> rfl

theorem process_supply :
    e.process store.supply clock text =
      match e.lookUp store text with
      | .error failure => .error failure
      | .ok none => e.fallBack store.supply clock text
      | .ok (some s) => (e.adjusted (Query.parse text)).outcome clock (Query.parse text) s := by
  unfold process lookUp
  generalize Query.parse text = q
  change Except.bind ((e.adjusted q).finder.findKeyword store.supply q.keyword
    q.arguments.length) _ = _
  cases (e.adjusted q).finder.findKeyword store.supply q.keyword q.arguments.length with
  | error failure => rfl
  | ok found =>
    cases found with
    | none => rfl
    | some s => exact ofExcept_eq _

theorem fallBack_supply :
    e.fallBack store.supply clock text =
      match e.defaultKeyword with
      | none => .ok .notFound
      | some keyword =>
        match e.finder.findKeyword store.supply keyword 1 with
        | .error failure => .error failure
        | .ok none => .error (.defaultKeywordNotFound keyword)
        | .ok (some s) => e.open? clock keyword [text] s := by
  rw [fallBack]
  cases e.defaultKeyword with
  | none => rfl
  | some keyword =>
    dsimp only
    change Except.bind (e.finder.findKeyword store.supply keyword 1) _ = _
    cases e.finder.findKeyword store.supply keyword 1 with
    | error failure => rfl
    | ok found =>
      cases found with
      | none => rfl
      | some s => exact ofExcept_eq _

/-- The shortcut of the default keyword, which a text without a shortcut of its own gets. -/
def FallsBackTo (keyword : String) (s : Shortcut) : Prop :=
  e.lookUp store text = .ok none ∧ e.defaultKeyword = some keyword ∧
    e.finder.findKeyword store.supply keyword 1 = .ok (some s)

/-- The shortcut that decides on a text, with the keyword that it was found for. -/
inductive Resolves : String → Shortcut → Prop
  | query {s} (h : e.lookUp store text = .ok (some s)) : Resolves (Query.parse text).keyword s
  | fallBack {keyword s} (h : e.FallsBackTo store text keyword s) : Resolves keyword s

section Found

variable {e store text}

theorem process_of_lookUp {s : Shortcut} (h : e.lookUp store text = .ok (some s)) :
    e.process store.supply clock text =
      (e.adjusted (Query.parse text)).outcome clock (Query.parse text) s := by
  rw [process_supply, h]

theorem FallsBackTo.process_eq {keyword : String} {s : Shortcut}
    (h : e.FallsBackTo store text keyword s) :
    e.process store.supply clock text = e.open? clock keyword [text] s := by
  obtain ⟨hlookup, hdefault, hfind⟩ := h
  rw [process_supply, hlookup]
  simp only
  rw [fallBack_supply, hdefault]
  simp only
  rw [hfind]

end Found

/-- What keeps a text from being decided on: a failure of a lookup, or that there is no shortcut
for the default keyword. -/
inductive Undecided : Failure → Prop
  | lookup {failure} (h : Lookup.Fails failure) : Undecided failure
  | default (keyword : String) : Undecided (.defaultKeywordNotFound keyword)

theorem fallBack_cases :
    (∃ failure, e.fallBack store.supply clock text = .error failure ∧ Undecided failure) ∨
    e.fallBack store.supply clock text = .ok .notFound ∨
    ∃ keyword s, e.defaultKeyword = some keyword ∧
      e.finder.findKeyword store.supply keyword 1 = .ok (some s) := by
  rw [fallBack_supply]
  cases e.defaultKeyword with
  | none => exact .inr (.inl rfl)
  | some keyword =>
    cases hfind : e.finder.findKeyword store.supply keyword 1 with
    | error failure =>
      have hfails := Finder.findKeyword_error _ _ _ hfind
      exact .inl ⟨failure, by simp only [hfind], .lookup hfails⟩
    | ok found =>
      cases found with
      | none => exact .inl ⟨_, by simp only [hfind], .default keyword⟩
      | some s => exact .inr (.inr ⟨keyword, s, rfl, hfind⟩)

/-- A text either fails on its lookups, or it finds nothing at all, or a shortcut decides. -/
theorem process_cases :
    (∃ failure, e.process store.supply clock text = .error failure ∧ Undecided failure) ∨
    e.process store.supply clock text = .ok .notFound ∨
    (∃ s, e.lookUp store text = .ok (some s)) ∨
    ∃ keyword s, e.FallsBackTo store text keyword s := by
  cases hlookup : e.lookUp store text with
  | error failure =>
    have hfails := Finder.findKeyword_error _ _ _ hlookup
    exact .inl ⟨failure, by rw [process_supply, hlookup], .lookup hfails⟩
  | ok found =>
    cases found with
    | some s => exact .inr (.inr (.inl ⟨s, rfl⟩))
    | none =>
      have hprocess : e.process store.supply clock text =
          e.fallBack store.supply clock text := by
        rw [process_supply, hlookup]
      rw [hprocess]
      rcases e.fallBack_cases store clock text with h | h | ⟨keyword, s, hdefault, hfind⟩
      · exact .inl h
      · exact .inr (.inl h)
      · exact .inr (.inr (.inr ⟨keyword, s, hlookup, hdefault, hfind⟩))

variable {e store text}

theorem FallsBackTo.eq_of_resolves {keyword keyword' : String} {s s' : Shortcut}
    (h : e.FallsBackTo store text keyword s) (h' : e.Resolves store text keyword' s') :
    keyword' = keyword ∧ s' = s := by
  obtain ⟨hlookup, hdefault, hfind⟩ := h
  cases h' with
  | query hquery => simp [hlookup] at hquery
  | fallBack hfall =>
    obtain ⟨_, hdefault', hfind'⟩ := hfall
    obtain rfl : keyword' = keyword := Option.some.inj (hdefault'.symm.trans hdefault)
    exact ⟨rfl, Option.some.inj (Except.ok.inj (hfind'.symm.trans hfind))⟩

end Environment

end Shortcuts
