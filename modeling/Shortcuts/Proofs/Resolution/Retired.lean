import Shortcuts.Proofs.Resolution.Process
import Shortcuts.Sample

/-!
Retired shortcuts. One that a query finds itself is never opened, and never said to lack a url.
The default keyword is not spared: whether its shortcut is retired is not asked there.
-/
namespace Shortcuts

namespace Environment

variable (e : Environment) (store : Store) (clock : Template.Clock) (text : String)

/-- Whatever a text comes to, no retired shortcut is opened or said to lack a url. -/
structure SparesRetired : Prop where
  success : ∀ url s, e.process store.supply clock text = .ok (.success url s) →
    s.deprecated = none
  missingUrl : ∀ keyword, e.process store.supply clock text = .error (.missingUrl keyword) →
    ∃ s, e.Resolves store text keyword s ∧ s.url = none ∧ s.deprecated = none

section Opening

variable {e clock}

theorem open?_success {keyword : String} {arguments : List String} {s s' : Shortcut} {url : String}
    (h : e.open? clock keyword arguments s = .ok (.success url s')) :
    s' = s ∧ ∃ template, s.url = some template ∧
      (e.setting clock).expand template arguments = .ok url := by
  rw [open?] at h
  cases hurl : s.url with
  | none => simp [hurl] at h
  | some template =>
    simp only [hurl] at h
    obtain ⟨filled, hexpand, hfilled⟩ := Except.map_eq_ok_iff.1 h
    cases hfilled
    exact ⟨rfl, template, rfl, hexpand⟩

theorem open?_missingUrl {keyword keyword' : String} {arguments : List String} {s : Shortcut}
    (h : e.open? clock keyword arguments s = .error (.missingUrl keyword')) :
    keyword' = keyword ∧ s.url = none := by
  rw [open?] at h
  cases hurl : s.url with
  | none =>
    simp only [hurl] at h
    cases h
    exact ⟨rfl, rfl⟩
  | some template =>
    simp only [hurl] at h
    have hexpand := Except.map_eq_error_iff.1 h
    obtain ⟨token, htoken | htoken⟩ := Template.Setting.expand_error hexpand
    · cases htoken
    · cases htoken

theorem outcome_success {q : Query} {s s' : Shortcut} {url : String}
    (h : e.outcome clock q s = .ok (.success url s')) :
    s' = s ∧ s.deprecated = none ∧ ∃ template, s.url = some template ∧
      (e.setting clock).expand template q.arguments = .ok url := by
  rw [outcome] at h
  split at h
  · rename_i hdeprecated
    obtain ⟨hs, hopened⟩ := open?_success h
    exact ⟨hs, hdeprecated, hopened⟩
  · cases h
  · obtain ⟨query, _, hquery⟩ := Except.map_eq_ok_iff.1 h
    cases hquery

theorem outcome_missingUrl {q : Query} {s : Shortcut} {keyword : String}
    (h : e.outcome clock q s = .error (.missingUrl keyword)) :
    keyword = q.keyword ∧ s.url = none ∧ s.deprecated = none := by
  rw [outcome] at h
  split at h
  · rename_i hdeprecated
    obtain ⟨hkeyword, hurl⟩ := open?_missingUrl h
    exact ⟨hkeyword, hurl, hdeprecated⟩
  · cases h
  · have hfill := Except.map_eq_error_iff.1 h
    obtain ⟨slots, hslots⟩ := Template.fillQuery_error hfill
    cases hslots

end Opening

variable {e store text}

/-- A shortcut that the text finds itself is told to be retired before anything else. -/
theorem sparesRetired_of_lookUp {s : Shortcut} (h : e.lookUp store text = .ok (some s)) :
    e.SparesRetired store clock text := by
  have hprocess := process_of_lookUp clock h
  constructor
  · intro url s' hsuccess
    obtain ⟨rfl, hkept, _⟩ := outcome_success (hprocess.symm.trans hsuccess)
    exact hkept
  · intro keyword hmissing
    obtain ⟨rfl, hurl, hkept⟩ := outcome_missingUrl (hprocess.symm.trans hmissing)
    exact ⟨s, .query h, hurl, hkept⟩

theorem sparesRetired_of_undecided {failure : Failure} (hform : Undecided failure)
    (h : e.process store.supply clock text = .error failure) :
    e.SparesRetired store clock text := by
  constructor
  · intro url s hsuccess
    simp [h] at hsuccess
  · intro keyword hmissing
    obtain rfl := Except.error.inj (h.symm.trans hmissing)
    cases hform with
    | lookup hfails => cases hfails

theorem sparesRetired_of_notFound (h : e.process store.supply clock text = .ok .notFound) :
    e.SparesRetired store clock text := by
  constructor
  · intro url s hsuccess
    simp [h] at hsuccess
  · intro keyword hmissing
    simp [h] at hmissing

/-- A retired shortcut of the default keyword is spared only by a variable without a value. -/
theorem FallsBackTo.expand_error {keyword : String} {s : Shortcut}
    (hfall : e.FallsBackTo store text keyword s) (h : e.SparesRetired store clock text)
    (hretired : s.deprecated ≠ none) :
    ∃ template failure, s.url = some template ∧
      (e.setting clock).expand template [text] = .error failure := by
  have hprocess := hfall.process_eq clock
  rw [open?] at hprocess
  cases hurl : s.url with
  | none =>
    simp only [hurl] at hprocess
    obtain ⟨s', hresolves, _, hkept⟩ := h.missingUrl keyword hprocess
    obtain ⟨_, rfl⟩ := hfall.eq_of_resolves hresolves
    exact absurd hkept hretired
  | some template =>
    simp only [hurl] at hprocess
    cases hexpand : (e.setting clock).expand template [text] with
    | error failure => exact ⟨template, failure, rfl, hexpand⟩
    | ok url =>
      rw [hexpand] at hprocess
      exact absurd (h.success url s hprocess) hretired

theorem FallsBackTo.sparesRetired {keyword : String} {s : Shortcut}
    (hfall : e.FallsBackTo store text keyword s)
    (h : s.deprecated ≠ none → ∃ template failure, s.url = some template ∧
      (e.setting clock).expand template [text] = .error failure) :
    e.SparesRetired store clock text := by
  have hprocess := hfall.process_eq clock
  constructor
  · intro url s' hsuccess
    obtain ⟨rfl, template, hurl, hexpand⟩ := open?_success (hprocess.symm.trans hsuccess)
    refine Classical.byContradiction fun hretired => ?_
    obtain ⟨template', failure, hurl', hfails⟩ := h hretired
    obtain rfl : template = template' := Option.some.inj (hurl.symm.trans hurl')
    simp [hexpand] at hfails
  · intro keyword' hmissing
    obtain ⟨rfl, hurl⟩ := open?_missingUrl (hprocess.symm.trans hmissing)
    refine ⟨s, .fallBack hfall, hurl, Classical.byContradiction fun hretired => ?_⟩
    obtain ⟨template, failure, hurl', _⟩ := h hretired
    simp [hurl] at hurl'

/-- Retired shortcuts are spared unless a text falls back to the default keyword, its shortcut is
retired, and that has no url or one that can be filled. -/
theorem sparesRetired_iff (e : Environment) (store : Store) (clock : Template.Clock)
    (text : String) :
    e.SparesRetired store clock text ↔
      ∀ keyword s, e.FallsBackTo store text keyword s → s.deprecated ≠ none →
        ∃ template failure, s.url = some template ∧
          (e.setting clock).expand template [text] = .error failure := by
  constructor
  · intro h keyword s hfall hretired
    exact hfall.expand_error clock h hretired
  · intro h
    rcases e.process_cases store clock text with
      ⟨failure, hprocess, hform⟩ | hprocess | ⟨s, hlookup⟩ | ⟨keyword, s, hfall⟩
    · exact sparesRetired_of_undecided clock hform hprocess
    · exact sparesRetired_of_notFound clock hprocess
    · exact sparesRetired_of_lookUp clock hlookup
    · exact hfall.sparesRetired clock (h keyword s hfall)

end Environment

namespace Sample

/-- The default keyword opens a retired shortcut, and one without a url is said to lack it. -/
theorem retiredStore_not_spared :
    ¬ (fallingBackTo "old").SparesRetired retiredStore clock "berlin" ∧
    ¬ (fallingBackTo "gone").SparesRetired retiredStore clock "berlin" := by
  constructor
  · intro h
    have hfall : (fallingBackTo "old").FallsBackTo retiredStore "berlin" "old"
        { Shortcut.empty with
          url := some "https://old.example/<q>"
          deprecated := some ⟨some "2024-03-31", none⟩ } := ⟨rfl, rfl, rfl⟩
    obtain ⟨_, failure, hurl, hexpand⟩ := hfall.expand_error clock h nofun
    obtain rfl := Option.some.inj hurl
    rw [Template.Setting.expand_eq] at hexpand
    cases hexpand
  · intro h
    obtain ⟨s, hresolves, _, hkept⟩ := h.missingUrl "gone" rfl
    have hfall : (fallingBackTo "gone").FallsBackTo retiredStore "berlin" "gone"
        { Shortcut.empty with deprecated := some ⟨some "2024-03-31", none⟩ } := ⟨rfl, rfl, rfl⟩
    obtain ⟨_, rfl⟩ := hfall.eq_of_resolves hresolves
    cases hkept

end Sample

end Shortcuts
