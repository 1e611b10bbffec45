import Shortcuts.Proofs.Resolution.Arguments

/-!
The default keyword. It decides on every text that finds nothing itself, and in the environment as
it is: the prefixes of the text change neither its shortcut nor the values of variables. The text
as it was typed is the only argument.
-/
namespace Shortcuts

namespace Template.Setting

variable {s : Setting} {template : String}

theorem expand_of_resolved (h : ∀ p ∈ placeholders template.toList, s.failure? p = none)
    (arguments : List String) : ∃ url, s.expand template arguments = .ok url := by
  rw [s.expand_eq, List.findSome?_eq_none_iff.2 h]
  exact ⟨_, rfl⟩

/-- A single argument in a single slot can be read back. -/
theorem filledWith_single {url text : String} (h : s.expand template [text] = .ok url)
    (hone : (argumentNames template.toList).length = 1) :
    ∃ value, s.FilledWith template [value] url ∧
      Percent.decode value = Percent.bytes text.toList := by
  have hnames : argumentNames template.toList ≠ [] := by
    rw [← List.length_pos_iff]
    omega
  have hfilled := filledWith_of_expand h hnames (Nat.le_of_eq hone)
  rw [hone] at hfilled
  exact ⟨Percent.encode text.toList, hfilled, Percent.decode_encode text.toList⟩

end Template.Setting

namespace Environment

section Outcomes

variable {e : Environment} {clock : Template.Clock} {s : Shortcut}

theorem open?_ne_notFound {keyword : String} {arguments : List String} :
    e.open? clock keyword arguments s ≠ .ok .notFound := by
  intro h
  rw [open?] at h
  split at h
  · cases h
  · obtain ⟨url, _, hurl⟩ := Except.map_eq_ok_iff.1 h
    cases hurl

theorem outcome_ne_notFound {q : Query} : e.outcome clock q s ≠ .ok .notFound := by
  intro h
  rw [outcome] at h
  split at h
  · exact open?_ne_notFound h
  · cases h
  · obtain ⟨query, _, hquery⟩ := Except.map_eq_ok_iff.1 h
    cases hquery

theorem open?_ne_defaultKeywordNotFound {keyword keyword' : String} {arguments : List String} :
    e.open? clock keyword arguments s ≠ .error (.defaultKeywordNotFound keyword') := by
  intro h
  cases open?_error h

end Outcomes

variable (e : Environment) (store : Store) (clock : Template.Clock)

theorem process_eq_notFound_iff (text : String) :
    e.process store.supply clock text = .ok .notFound ↔
      e.lookUp store text = .ok none ∧ e.defaultKeyword = none := by
  rw [process_supply]
  cases e.lookUp store text with
  | error failure => simp
  | ok found =>
    cases found with
    | some s => simp [outcome_ne_notFound]
    | none =>
      simp only [true_and]
      rw [fallBack_supply]
      cases e.defaultKeyword with
      | none => simp
      | some keyword =>
        simp only
        cases e.finder.findKeyword store.supply keyword 1 with
        | error failure => simp
        | ok found => cases found <;> simp [open?_ne_notFound]

/-- What a default keyword makes of the texts that find nothing themselves. -/
structure DecidesByDefault (keyword : String) : Prop where
  ne_notFound : ∀ text, e.lookUp store text = .ok none →
    e.process store.supply clock text ≠ .ok .notFound
  missing_iff : ∀ text, e.lookUp store text = .ok none →
    (e.process store.supply clock text = .error (.defaultKeywordNotFound keyword) ↔
      e.finder.findKeyword store.supply keyword 1 = .ok none)
  failing : ∀ failure, e.finder.findKeyword store.supply keyword 1 = .error failure →
    ∀ text, e.lookUp store text = .ok none → e.process store.supply clock text = .error failure
  opened : ∀ s, e.finder.findKeyword store.supply keyword 1 = .ok (some s) →
    ∀ text, e.lookUp store text = .ok none →
      (∀ keyword' s', e.Resolves store text keyword' s' ↔ keyword' = keyword ∧ s' = s) ∧
      e.process store.supply clock text = e.open? clock keyword [text] s
  filled : ∀ s template, e.finder.findKeyword store.supply keyword 1 = .ok (some s) →
    s.url = some template → (Template.argumentNames template.toList).length = 1 →
    (∀ p ∈ Template.placeholders template.toList, (e.setting clock).failure? p = none) →
    ∀ text, e.lookUp store text = .ok none →
      ∃ url value, e.process store.supply clock text = .ok (.success url s) ∧
        (e.setting clock).FilledWith template [value] url ∧
        Percent.decode value = Percent.bytes text.toList

variable {e store} {keyword : String}

theorem process_of_default (hdefault : e.defaultKeyword = some keyword) {text : String}
    (h : e.lookUp store text = .ok none) :
    e.process store.supply clock text =
      match e.finder.findKeyword store.supply keyword 1 with
      | .error failure => .error failure
      | .ok none => .error (.defaultKeywordNotFound keyword)
      | .ok (some s) => e.open? clock keyword [text] s := by
  have hfall := e.fallBack_supply store clock text
  rw [hdefault] at hfall
  rw [process_supply, h]
  exact hfall

theorem FallsBackTo.resolves_iff {text : String} {s : Shortcut}
    (h : e.FallsBackTo store text keyword s) (keyword' : String) (s' : Shortcut) :
    e.Resolves store text keyword' s' ↔ keyword' = keyword ∧ s' = s := by
  constructor
  · exact h.eq_of_resolves
  · rintro ⟨rfl, rfl⟩
    exact .fallBack h

theorem decidesByDefault (hdefault : e.defaultKeyword = some keyword) :
    e.DecidesByDefault store clock keyword := by
  constructor
  case ne_notFound =>
    intro text htext hnone
    have hdefault' := ((e.process_eq_notFound_iff store clock text).1 hnone).2
    rw [hdefault] at hdefault'
    cases hdefault'
  case missing_iff =>
    intro text htext
    rw [process_of_default clock hdefault htext]
    cases hfind : e.finder.findKeyword store.supply keyword 1 with
    | error failure =>
      -- a lookup fails with faulty data or an unavailable namespace only
      have hfails := Finder.findKeyword_error _ _ _ hfind
      simp only [Except.error.injEq, reduceCtorEq, iff_false]
      rintro rfl
      cases hfails
    | ok found => cases found <;> simp [open?_ne_defaultKeywordNotFound]
  case failing =>
    intro failure hfind text htext
    rw [process_of_default clock hdefault htext, hfind]
  case opened =>
    intro s hfind text htext
    have hfall : e.FallsBackTo store text keyword s := ⟨htext, hdefault, hfind⟩
    exact ⟨hfall.resolves_iff, hfall.process_eq clock⟩
  case filled =>
    intro s template hfind hurl hone hresolved text htext
    obtain ⟨url, hexpand⟩ := Template.Setting.expand_of_resolved hresolved [text]
    obtain ⟨value, hfilled, hdecode⟩ := Template.Setting.filledWith_single hexpand hone
    refine ⟨url, value, ?_, hfilled, hdecode⟩
    rw [process_of_default clock hdefault htext, hfind]
    simp only [open?, hurl, hexpand]
    rfl

/-- Nothing is found for a text exactly if its lookup finds nothing and there is no default
keyword. If there is one, it decides on all texts whose lookup finds nothing. -/
theorem process_default (e : Environment) (store : Store) (clock : Template.Clock) :
    (∀ text, e.process store.supply clock text = .ok .notFound ↔
      e.lookUp store text = .ok none ∧ e.defaultKeyword = none) ∧
    ∀ keyword, e.defaultKeyword = some keyword → e.DecidesByDefault store clock keyword :=
  ⟨e.process_eq_notFound_iff store clock, fun _ hdefault => decidesByDefault clock hdefault⟩

end Environment

namespace Sample

/-- A default keyword that goes by the language, which the prefixes of a query change. -/
def asked : Store
  | .official "o" => some (.ofList [
    ("s 1", including (.key "s-<$language> 1") (titled "Search")),
    ("s-de 1", shortcut "Suche" "https://s.example/<$language>/<$country: \x7b\x7d>?q=<q>"),
    ("s-en 1", shortcut "English" "https://en.example/<q>")])
  | .official "en" => some (.ofList [("s 1", shortcut "English" "https://en.example/<q>")])
  | _ => none

def search : Shortcut :=
  { titled "Search" with
    url := some "https://s.example/<$language>/<$country: \x7b\x7d>?q=<q>" }

def question : String := " .gb.en.where is  it, <q>? "

def questionUrl : String :=
  "https://s.example/de/de?q=%20.gb.en.where%20is%20%20it%2C%20%3Cq%3E%3F%20"

/-- The blanks, the prefixes and the keyword of the query all go into the slot. -/
theorem asked_default :
    (fallingBackTo "s").defaultKeyword = some "s" ∧
    (fallingBackTo "s").lookUp asked question = .ok none ∧
    (fallingBackTo "s").finder.findKeyword asked.supply "s" 1 = .ok (some search) ∧
    (fallingBackTo "s").process asked.supply clock question =
      .ok (.success questionUrl search) ∧
    ∃ template value, search.url = some template ∧
      ((fallingBackTo "s").setting clock).FilledWith template [value] questionUrl ∧
      Percent.decode value = Percent.bytes question.toList := by
  have hlookUp : (fallingBackTo "s").lookUp asked question = .ok none :=
    Except.toOption_eq_some_iff.1 (by decide +kernel)
  have hfind : (fallingBackTo "s").finder.findKeyword asked.supply "s" 1 = .ok (some search) :=
    Except.toOption_eq_some_iff.1 (by decide +kernel)
  have hprocess : (fallingBackTo "s").process asked.supply clock question =
      .ok (.success questionUrl search) := Except.toOption_eq_some_iff.1 (by decide +kernel)
  have hdecides := ((fallingBackTo "s").process_default asked clock).2 "s" rfl
  have hresolved : ∀ p ∈ Template.placeholders
      "https://s.example/<$language>/<$country: \x7b\x7d>?q=<q>".toList,
      ((fallingBackTo "s").setting clock).failure? p = none := by decide +kernel
  obtain ⟨url, value, hsuccess, hfilled, hdecode⟩ :=
    hdecides.filled search _ hfind rfl (by decide +kernel) hresolved question hlookUp
  obtain ⟨rfl, _⟩ := Outcome.success.inj (Except.ok.inj (hprocess.symm.trans hsuccess))
  exact ⟨rfl, hlookUp, hfind, hprocess, _, value, rfl, hfilled, hdecode⟩

end Sample

end Shortcuts
