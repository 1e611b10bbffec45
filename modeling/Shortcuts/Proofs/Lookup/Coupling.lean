import Mathlib.Data.List.Forall2
import Shortcuts.Proofs.Resolution.Process

/-!
Lookups on two supplies side by side. What a lookup does with its supply is ask for entries and
write notes, and what it fails with itself lies in the data or in the use. So a relation between
computations that every step keeps holds between a lookup on one supply and the same lookup on
the other, as long as it holds where they ask. The sources that they ask for need not be the same
if those of one match those of the other.
-/
namespace Shortcuts

/-- A relation between the computations of two monads that steps in sequence keep. Failures of the
program itself are none that a lookup ends with on its own account. -/
structure Coupling (m n : Type → Type) [Monad m] [MonadExcept Failure m] [Monad n]
    [MonadExcept Failure n] where
  Rel : {α : Type} → m α → n α → Prop
  pure : ∀ {α : Type} (a : α), Rel (pure a) (pure a)
  throw : ∀ {α : Type} (failure : Failure), failure.kind ≠ .implementation →
    Rel (throw failure : m α) (throw failure : n α)
  bind : ∀ {α β : Type} {x : m α} {y : n α} {f : α → m β} {g : α → n β},
    Rel x y → (∀ a, Rel (f a) (g a)) → Rel (x >>= f) (y >>= g)

namespace Coupling

variable {m n : Type → Type} [Monad m] [MonadExcept Failure m] [Monad n] [MonadExcept Failure n]
  (c : Coupling m n)

/-- Two supplies that are related wherever they are asked for sources that match. -/
structure Supplies (alike : Source → Source → Prop) (supply : Supply m) (supply' : Supply n) :
    Prop where
  entries : ∀ s s', alike s s' → c.Rel (supply.entries s) (supply'.entries s')
  note : ∀ e e', c.Rel (supply.note e) (supply'.note e')
  official : ∀ name, alike (.official name) (.official name)

/-- Lookups of keys that are related in all lists of namespaces that match. -/
def Finds (alike : Source → Source → Prop) (find : List Source → String → m (Option Shortcut))
    (find' : List Source → String → n (Option Shortcut)) : Prop :=
  ∀ {namespaces namespaces'}, List.Forall₂ alike namespaces namespaces' → ∀ key,
    c.Rel (find namespaces key) (find' namespaces' key)

theorem ofExcept {α : Type} {r : Except Failure α}
    (h : ∀ failure, r = .error failure → failure.kind = .dataDefinition) :
    c.Rel (MonadExcept.ofExcept r : m α) (MonadExcept.ofExcept r : n α) := by
  cases r with
  | ok a => exact c.pure a
  | error failure =>
    have hkind := h failure rfl
    exact c.throw failure (by rw [hkind]; decide)

/-! ## Lookups -/

section Resolving

variable {c} {alike : Source → Source → Prop}
  {find : List Source → String → m (Option Shortcut)}
  {find' : List Source → String → n (Option Shortcut)} {namespaces namespaces' : List Source}

theorem Finds.included (h : c.Finds alike find find')
    (hofficial : ∀ name, alike (.official name) (.official name))
    (halike : List.Forall₂ alike namespaces namespaces') (language : String) (i : Include) :
    c.Rel (Lookup.included language find namespaces i)
      (Lookup.included language find' namespaces' i) := by
  induction i using Include.alternativesInduction with
  | key k => exact h halike _
  | reference k within =>
    cases within with
    | none => exact h halike _
    | some name => exact h (.cons (hofficial name) .nil) _
  | unrecognized v => exact c.throw (.invalidInclude v.render) nofun
  | nil => exact c.pure none
  | cons i rest ihi ihrest =>
    refine c.bind ihi fun found => ?_
    cases found with
    | some s => exact c.pure (some s)
    | none => exact ihrest

theorem Finds.resolveEntry (h : c.Finds alike find find')
    (hofficial : ∀ name, alike (.official name) (.official name))
    (halike : List.Forall₂ alike namespaces namespaces') (language : String) (e : Entry) :
    c.Rel (Lookup.resolveEntry language find namespaces e)
      (Lookup.resolveEntry language find' namespaces' e) := by
  match e with
  | .short template => exact c.pure _
  | .full ⟨none, own⟩ => exact c.pure _
  | .full ⟨some i, own⟩ => exact c.bind (h.included hofficial halike language i) fun _ => c.pure _

end Resolving

namespace Supplies

variable {c} {alike : Source → Source → Prop} {supply : Supply m} {supply' : Supply n}

theorem firstEntry (h : c.Supplies alike supply supply') (key : String)
    {sources sources' : List Source} (halike : List.Forall₂ alike sources sources') :
    c.Rel (Lookup.firstEntry supply key sources) (Lookup.firstEntry supply' key sources') := by
  induction halike with
  | nil => exact c.pure none
  | cons hs _ ih =>
    refine c.bind (h.entries _ _ hs) fun entries => ?_
    cases entries with
    | none => exact c.bind (h.note _ _) fun _ => ih
    | some entries =>
      dsimp only
      cases entries.get? key with
      | none => exact ih
      | some entry => exact c.bind (h.note _ _) fun _ => c.pure (some entry)

theorem finds (h : c.Supplies alike supply supply') (language : String) (depth : Nat) :
    c.Finds alike (Lookup.find supply language depth) (Lookup.find supply' language depth) := by
  induction depth with
  | zero => exact fun _ key => c.throw (.circularInclusion key) nofun
  | succ depth ih =>
    intro namespaces namespaces' halike key
    refine c.bind (h.note _ _) fun _ => ?_
    refine c.bind (h.firstEntry key (List.rel_reverse halike)) fun entry => ?_
    cases entry with
    | none => exact c.pure none
    | some entry => exact ih.resolveEntry h.official halike language entry

end Supplies

end Coupling

namespace Finder

/-- The same finder on namespaces that match. -/
structure Matches (alike : Source → Source → Prop) (f f' : Finder) : Prop where
  language : f.language = f'.language
  namespaces : List.Forall₂ alike f.namespaces f'.namespaces

variable {m n : Type → Type} [Monad m] [MonadExcept Failure m] [Monad n] [MonadExcept Failure n]
  {c : Coupling m n} {alike : Source → Source → Prop} {supply : Supply m} {supply' : Supply n}
  {f f' : Finder}

theorem matches_self (h : ∀ s ∈ f.namespaces, alike s s) : f.Matches alike f :=
  ⟨rfl, List.forall₂_same.2 h⟩

theorem find_coupled (h : c.Supplies alike supply supply') (hlanguage : f.language = f'.language)
    (key : String) {override override' : Option (List Source)}
    (halike : List.Forall₂ alike (override.getD f.namespaces) (override'.getD f'.namespaces))
    (depth : Nat) :
    c.Rel (f.find supply key override depth) (f'.find supply' key override' depth) := by
  rw [find_eq, find_eq, ← hlanguage]
  exact h.finds f.language depth halike key

theorem findCount_coupled (h : c.Supplies alike supply supply') (hf : f.Matches alike f')
    (keyword : String) (count : Nat) :
    c.Rel (f.findCount supply keyword count) (f'.findCount supply' keyword count) := by
  induction count with
  | zero => exact c.pure none
  | succ count ih =>
    have hfind : c.Rel (f.find supply (searchKey keyword (count + 1)) none maxIncludeDepth)
        (f'.find supply' (searchKey keyword (count + 1)) none maxIncludeDepth) := by
      apply find_coupled h hf.language
      exact hf.namespaces
    refine c.bind hfind fun found => ?_
    cases found with
    | some s => exact c.pure (some s)
    | none => exact ih

theorem findKeyword_coupled (h : c.Supplies alike supply supply') (hf : f.Matches alike f')
    (keyword : String) (count : Nat) :
    c.Rel (f.findKeyword supply keyword count) (f'.findKeyword supply' keyword count) := by
  refine c.bind (findCount_coupled h hf keyword count) fun found => ?_
  cases found with
  | some s => exact c.pure (some s)
  | none => exact c.bind (h.note _ _) fun _ => c.pure none

theorem searchEntries_coupled (h : c.Supplies alike supply supply') (hf : f.Matches alike f')
    (query : String) (entries : List (String × Entry)) (found : KeyMap Shortcut) :
    c.Rel (f.searchEntries supply query entries found)
      (f'.searchEntries supply' query entries found) := by
  induction entries generalizing found with
  | nil => exact c.pure found
  | cons entry rest ih =>
    have hfinds : c.Finds alike (Lookup.find supply f.language maxIncludeDepth)
        (Lookup.find supply' f'.language maxIncludeDepth) := by
      rw [← hf.language]
      exact h.finds f.language maxIncludeDepth
    have hresolve := hfinds.resolveEntry h.official hf.namespaces f.language entry.2
    rw [searchEntries, searchEntries]
    rw [f.resolveEntry_eq (f.find_eq supply _), f'.resolveEntry_eq (f'.find_eq supply' _),
      ← hf.language]
    rw [← hf.language] at hresolve
    refine c.bind hresolve fun resolved => ?_
    cases resolved with
    | none => exact ih found
    | some s => exact ih _

theorem searchSources_coupled (h : c.Supplies alike supply supply') (hf : f.Matches alike f')
    (query : String) {sources sources' : List Source}
    (halike : List.Forall₂ alike sources sources') (found : KeyMap Shortcut) :
    c.Rel (f.searchSources supply query sources found)
      (f'.searchSources supply' query sources' found) := by
  induction halike generalizing found with
  | nil => exact c.pure found
  | cons hs _ ih =>
    refine c.bind (h.entries _ _ hs) fun entries => ?_
    cases entries with
    | none => exact ih found
    | some entries =>
      exact c.bind (searchEntries_coupled h hf query _ found) fun found' => ih found'

theorem searchLowered_coupled (h : c.Supplies alike supply supply') (hf : f.Matches alike f')
    (query : String) :
    c.Rel (f.searchLowered supply query) (f'.searchLowered supply' query) :=
  searchSources_coupled h hf _ (List.rel_reverse hf.namespaces) _

end Finder

namespace Source

theorem mem_addNew {seen more : List Source} {s : Source} (h : s ∈ addNew seen more) :
    s ∈ seen ∨ s ∈ more := by
  induction more generalizing seen with
  | nil => exact .inl h
  | cons head rest ih =>
    rw [addNew] at h
    split at h
    · exact (ih h).imp_right (List.mem_cons_of_mem _)
    · rcases ih h with hseen | hrest
      · rcases List.mem_append.1 hseen with hseen | hhead
        · exact .inl hseen
        · exact .inr (List.mem_singleton.1 hhead ▸ List.mem_cons_self ..)
      · exact .inr (List.mem_cons_of_mem _ hrest)

theorem mem_merge {base additional : List Source} {s : Source} (h : s ∈ merge base additional) :
    s ∈ base ∨ s ∈ additional := by
  rcases mem_addNew h with h | h
  · cases h
  · exact List.mem_append.1 h

end Source

namespace Environment

/-- The same environment on namespaces that match, also together with the prefixes of a query. -/
structure Matches (alike : Source → Source → Prop) (q : Query) (e e' : Environment) : Prop where
  country : e.country = e'.country
  language : e.language = e'.language
  defaultKeyword : e.defaultKeyword = e'.defaultKeyword
  namespaces : List.Forall₂ alike e.namespaces e'.namespaces
  adjusted : List.Forall₂ alike (e.adjusted q).namespaces (e'.adjusted q).namespaces

variable {m n : Type → Type} [Monad m] [MonadExcept Failure m] [Monad n] [MonadExcept Failure n]
  {c : Coupling m n} {alike : Source → Source → Prop} {supply : Supply m} {supply' : Supply n}
  {e e' : Environment} {q : Query}

/-- The prefixes of a query bring in official namespaces only. -/
theorem matches_self (hofficial : ∀ name, alike (.official name) (.official name))
    (halike : ∀ s ∈ e.namespaces, alike s s) (q : Query) : e.Matches alike q e := by
  refine ⟨rfl, rfl, rfl, List.forall₂_same.2 halike, List.forall₂_same.2 fun s hs => ?_⟩
  rcases Source.mem_merge hs with hbase | hprefix
  · exact halike s hbase
  · obtain ⟨name, _, rfl⟩ := List.mem_map.1 hprefix
    exact hofficial name

theorem Matches.finder (h : e.Matches alike q e') : e.finder.Matches alike e'.finder :=
  ⟨h.language, h.namespaces⟩

theorem Matches.adjusted_finder (h : e.Matches alike q e') :
    (e.adjusted q).finder.Matches alike (e'.adjusted q).finder :=
  ⟨congrArg q.language.getD h.language, h.adjusted⟩

theorem Matches.setting (h : e.Matches alike q e') (clock : Template.Clock) :
    e.setting clock = e'.setting clock := by
  rw [Environment.setting, Environment.setting, h.country, h.language]

theorem Matches.open? (h : e.Matches alike q e') (clock : Template.Clock) (keyword : String)
    (arguments : List String) (s : Shortcut) :
    e.open? clock keyword arguments s = e'.open? clock keyword arguments s := by
  rw [Environment.open?, Environment.open?, h.setting]

theorem Matches.outcome (h : e.Matches alike q e') (clock : Template.Clock) (q' : Query)
    (s : Shortcut) : (e.adjusted q).outcome clock q' s = (e'.adjusted q).outcome clock q' s := by
  have hsetting : (e.adjusted q).setting clock = (e'.adjusted q).setting clock := by
    simp only [Environment.setting, Environment.adjusted, h.country, h.language]
  simp only [Environment.outcome, Environment.open?, hsetting]

theorem fallBack_coupled (h : c.Supplies alike supply supply') (he : e.Matches alike q e')
    (clock : Template.Clock) (text : String) :
    c.Rel (e.fallBack supply clock text) (e'.fallBack supply' clock text) := by
  rw [fallBack, fallBack, ← he.defaultKeyword]
  cases e.defaultKeyword with
  | none => exact c.pure _
  | some keyword =>
    refine c.bind (h.note _ _) fun _ => ?_
    refine c.bind (Finder.findKeyword_coupled h he.finder keyword 1) fun found => ?_
    cases found with
    | none => exact c.throw (.defaultKeywordNotFound keyword) (by simp [Failure.kind])
    | some s =>
      dsimp only
      rw [he.open?]
      exact c.ofExcept fun _ => open?_error

theorem process_coupled (h : c.Supplies alike supply supply') {text : String}
    (he : e.Matches alike (Query.parse text) e') (clock : Template.Clock) :
    c.Rel (e.process supply clock text) (e'.process supply' clock text) := by
  refine c.bind (h.note _ _) fun _ => ?_
  refine c.bind (Finder.findKeyword_coupled h he.adjusted_finder _ _) fun found => ?_
  cases found with
  | some s =>
    dsimp only
    rw [he.outcome]
    exact c.ofExcept fun _ => outcome_error
  | none => exact fallBack_coupled h he clock text

end Environment

end Shortcuts
