import Shortcuts.Proofs.Resolution.Process
import Shortcuts.Proofs.Template.Layout
import Shortcuts.Sample

/-!
Argument texts. How many arguments a query has decides on its shortcut and on whether that can be
filled, but what they say does not, and neither does the time. Two queries of the same form fail
alike or come to the same kind of outcome through the same shortcut.
-/
namespace Except

/-- Both fail with the same failure, or both give something, of which a relation holds. -/
inductive Alike {ε α : Type} (R : α → α → Prop) : Except ε α → Except ε α → Prop
  | failing (failure : ε) : Alike R (.error failure) (.error failure)
  | giving {a b : α} (h : R a b) : Alike R (.ok a) (.ok b)

theorem Alike.of_ok {ε α : Type} {R : α → α → Prop} {a : α} {r : Except ε α}
    (h : Alike R (.ok a) r) : ∃ b, r = .ok b ∧ R a b := by
  cases h with
  | giving h => exact ⟨_, rfl, h⟩

theorem Alike.map {ε α β : Type} {R : α → α → Prop} {S : β → β → Prop} {r r' : Except ε α}
    {f g : α → β} (h : Alike R r r') (hfg : ∀ a b, R a b → S (f a) (g b)) :
    Alike S (r.map f) (r'.map g) := by
  cases h with
  | failing failure => exact .failing failure
  | giving h => exact .giving (hfg _ _ h)

end Except

namespace Shortcuts

/-! ## Templates -/

namespace Template

/-- Whether a variable has a value depends neither on the time nor on the language or country. -/
theorem Setting.value_alike (s s' : Setting) (token : String) :
    Except.Alike (fun _ _ => True) (s.value token) (s'.value token) := by
  rw [value, value]
  by_cases hlanguage : token = "<$language>"
  · rw [if_pos hlanguage, if_pos hlanguage]
    exact .giving trivial
  rw [if_neg hlanguage, if_neg hlanguage]
  by_cases hcountry : token = "<$country: \x7b\x7d>"
  · rw [if_pos hcountry, if_pos hcountry]
    exact .giving trivial
  rw [if_neg hcountry, if_neg hcountry]
  by_cases hnow : "<$now".toList.isPrefixOf token.toList
  · rw [if_pos hnow, if_pos hnow]
    cases timeFormat? token.toList with
    | some format => exact .giving trivial
    | none => exact .failing _
  · rw [if_neg hnow, if_neg hnow]
    exact .failing _

theorem Setting.failure?_eq (s s' : Setting) : s.failure? = s'.failure? := by
  funext p
  rw [failure?, failure?]
  have halike := s.value_alike s' (String.ofList p.pattern)
  generalize s.value (String.ofList p.pattern) = r at halike ⊢
  generalize s'.value (String.ofList p.pattern) = r' at halike ⊢
  cases halike <;> rfl

theorem Setting.expand_alike (s s' : Setting) (template : String)
    (arguments arguments' : List String) :
    Except.Alike (fun _ _ => True) (s.expand template arguments)
      (s'.expand template arguments') := by
  rw [s.expand_eq, s'.expand_eq, s.failure?_eq s']
  cases (placeholders template.toList).findSome? s'.failure? with
  | some failure => exact .failing failure
  | none => exact .giving trivial

theorem fillQuery_alike (template : String) {arguments arguments' : List String}
    (h : arguments.length = arguments'.length) :
    Except.Alike (fun _ _ => True) (fillQuery template arguments)
      (fillQuery template arguments') := by
  rw [fillQuery, fillQuery, ← h]
  split
  · exact .giving trivial
  · exact .failing _

end Template

/-! ## Queries -/

/-- Two queries differ in what their arguments say and in nothing else. -/
structure Query.SameForm (q q' : Query) : Prop where
  keyword : q.keyword = q'.keyword
  namespaces : q.namespaces = q'.namespaces
  language : q.language = q'.language
  country : q.country = q'.country
  count : q.arguments.length = q'.arguments.length

/-- Two outcomes differ in what has been filled in and in nothing else. -/
inductive Outcome.SameKind : Outcome → Outcome → Prop
  | success (url url' : String) (s : Shortcut) : SameKind (.success url s) (.success url' s)
  | deprecated (created : Option String) {alternative alternative' : Option String}
      (h : alternative.isSome = alternative'.isSome) :
      SameKind (.deprecated created alternative) (.deprecated created alternative')
  | notFound : SameKind .notFound .notFound

namespace Environment

open Outcome

variable (e : Environment) (store : Store) (clock clock' : Template.Clock)

theorem open?_alike (keyword : String) (arguments arguments' : List String) (s : Shortcut) :
    Except.Alike SameKind (e.open? clock keyword arguments s)
      (e.open? clock' keyword arguments' s) := by
  rw [open?, open?]
  cases s.url with
  | none => exact .failing _
  | some template =>
    have hexpand := (e.setting clock).expand_alike (e.setting clock') template arguments arguments'
    exact hexpand.map fun url url' _ => .success url url' s

theorem outcome_alike {q q' : Query} (h : q.SameForm q') (s : Shortcut) :
    Except.Alike SameKind (e.outcome clock q s) (e.outcome clock' q' s) := by
  rw [outcome, outcome, ← h.keyword]
  cases s.deprecated with
  | none => exact e.open?_alike clock clock' q.keyword q.arguments q'.arguments s
  | some deprecation =>
    obtain ⟨created, _ | alternative⟩ := deprecation
    · exact .giving (.deprecated created rfl)
    · have hfill := Template.fillQuery_alike alternative h.count
      exact hfill.map fun _ _ _ => .deprecated created rfl

theorem fallBack_alike (text text' : String) :
    Except.Alike SameKind (e.fallBack store.supply clock text)
      (e.fallBack store.supply clock' text') := by
  rw [fallBack_supply, fallBack_supply]
  cases e.defaultKeyword with
  | none => exact .giving .notFound
  | some keyword =>
    dsimp only
    cases e.finder.findKeyword store.supply keyword 1 with
    | error failure => exact .failing failure
    | ok found =>
      cases found with
      | none => exact .failing _
      -- The whole text is the argument, so there is one argument on both sides.
      | some s => exact e.open?_alike clock clock' keyword [text] [text'] s

theorem adjusted_eq {q q' : Query} (h : q.SameForm q') : e.adjusted q = e.adjusted q' := by
  rw [adjusted, adjusted, h.country, h.language, h.namespaces]

theorem lookUp_eq {text text' : String} (h : (Query.parse text).SameForm (Query.parse text')) :
    e.lookUp store text = e.lookUp store text' := by
  rw [lookUp, lookUp, e.adjusted_eq h, h.keyword, h.count]

/-- Queries of the same form fail with the same failure or come to the same kind of outcome, with
the same shortcut, at whatever times. -/
theorem process_alike {text text' : String}
    (h : (Query.parse text).SameForm (Query.parse text')) :
    Except.Alike SameKind (e.process store.supply clock text)
      (e.process store.supply clock' text') := by
  rw [process_supply, process_supply, e.lookUp_eq store h, e.adjusted_eq h]
  cases e.lookUp store text' with
  | error failure => exact .failing failure
  | ok found =>
    cases found with
    | none => exact e.fallBack_alike store clock clock' text text'
    | some s => exact (e.adjusted (Query.parse text')).outcome_alike clock clock' h s

end Environment

namespace Sample

/-- A retired shortcut for two arguments, and one for the default keyword. -/
def replaced : Store
  | .official "o" => some (.ofList [
    ("bus 2", retired (some "bvg <Start>, <Ziel>")),
    ("s 1", shortcut "Search" "https://s.example/<$language>?q=<q>")])
  | _ => none

def newYear : Template.Clock := ⟨2026, 1, 1, 0, 0⟩

/-- Arguments that look like a slot or are empty change nothing for the retired shortcut, and
neither do they where the whole query becomes the argument of the default keyword. -/
theorem replaced_alike :
    (Query.parse "bus A, B").SameForm (Query.parse "bus <Ziel>,") ∧
    (fallingBackTo "s").process replaced.supply clock "bus A, B" =
      .ok (.deprecated (some "2024-03-31") (some "bvg A, B")) ∧
    (∃ query, (fallingBackTo "s").process replaced.supply newYear "bus <Ziel>," =
      .ok (.deprecated (some "2024-03-31") (some query))) ∧
    (Query.parse "where Köln").SameForm (Query.parse "where <$q>") ∧
    Except.Alike Outcome.SameKind
      ((fallingBackTo "s").process replaced.supply clock "where Köln")
      ((fallingBackTo "s").process replaced.supply newYear "where <$q>") := by
  have hretired : (Query.parse "bus A, B").SameForm (Query.parse "bus <Ziel>,") := by
    constructor <;> decide +kernel
  have hasked : (Query.parse "where Köln").SameForm (Query.parse "where <$q>") := by
    constructor <;> decide +kernel
  have hprocess : (fallingBackTo "s").process replaced.supply clock "bus A, B" =
      .ok (.deprecated (some "2024-03-31") (some "bvg A, B")) := rfl
  have halike := (fallingBackTo "s").process_alike replaced clock newYear hretired
  rw [hprocess] at halike
  obtain ⟨outcome, houtcome, hkind⟩ := halike.of_ok
  refine ⟨hretired, hprocess, ?_, hasked,
    (fallingBackTo "s").process_alike replaced clock newYear hasked⟩
  cases hkind with
  | deprecated _ hsome =>
    obtain ⟨query, rfl⟩ := Option.isSome_iff_exists.1 hsome.symm
    exact ⟨query, houtcome⟩

end Sample

end Shortcuts
