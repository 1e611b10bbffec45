import Shortcuts.Proofs.Session.Changing
import Shortcuts.Proofs.Session.Transparent

/-!
Sources and their providers. On a source that it supports a provider fails only because a document
cannot be had or not be understood. The standard providers support every source, and go on doing
so whatever they remember. So no operation ever meets a source that nobody supports, whatever has
been asked before and however the world behaves meanwhile.
-/
namespace Shortcuts

/-! ## Documents -/

/-- What can be wrong with the document of a namespace. -/
inductive Document.Unreadable : Failure → Prop
  | unavailable (source reason : String) : Unreadable (.namespaceUnavailable source reason)
  | malformed (source reason : String) : Unreadable (.malformedNamespaceData source reason)

namespace Document

variable {failure : Failure}

theorem Unreadable.kind_ne (h : Unreadable failure) : failure.kind ≠ .implementation := by
  cases h with
  | unavailable source reason => exact nofun
  | malformed source reason => exact nofun

theorem ofNamespace_error {source content : String}
    (h : ofNamespace source content = .error failure) : Unreadable failure := by
  rw [ofNamespace] at h
  split at h
  · cases h
  · split at h
    · cases h
    · obtain rfl := Except.error.inj h
      exact .malformed source _

theorem ofBulk_error {address content : String} (h : ofBulk address content = .error failure) :
    Unreadable failure := by
  rw [ofBulk] at h
  split at h
  · cases h
  · obtain rfl := Except.error.inj h
    exact .malformed address _

end Document

namespace Provider

open Document

variable {w : World} {failure : Failure}

theorem fetch_error {α : Type} {read : String → String → Except Failure (Reading α)}
    {address : String}
    (hread : ∀ content failure, read address content = .error failure → Unreadable failure)
    (h : (fetch read w address).value = .error failure) : Unreadable failure := by
  unfold fetch at h
  dsimp only at h
  split at h
  · obtain rfl := Except.error.inj h
    exact .unavailable address _
  · rename_i content _
    split at h
    · rename_i hcontent
      obtain rfl := Except.error.inj h
      exact hread content _ hcontent
    · cases h

theorem readFile_error {path : String} (h : (readFile w path).value = .error failure) :
    Unreadable failure := by
  unfold readFile at h
  split at h
  · obtain rfl := Except.error.inj h
    exact .unavailable path _
  · split at h
    · rename_i hcontent
      obtain rfl := Except.error.inj h
      exact ofNamespace_error hcontent
    · cases h

theorem load_error {p : Provider} {s : Source} (hsupports : p.supports s = true)
    (h : p.load w s = .error failure) : Unreadable failure := by
  cases p <;> cases s <;> try exact absurd hsupports Bool.false_ne_true
  all_goals rw [load] at h
  case fixed.official => cases h
  case inline.inline => cases h
  case bulk.official =>
    exact fetch_error (fun _ _ => ofBulk_error) (Except.map_eq_error_iff.1 h)
  case url.url =>
    exact fetch_error (fun _ _ => ofNamespace_error) (Except.map_eq_error_iff.1 h)
  case github.github =>
    exact fetch_error (fun _ _ => ofNamespace_error) (Except.map_eq_error_iff.1 h)
  case file.file => exact readFile_error (Except.map_eq_error_iff.1 h)

/-- Every source has a provider that supports it. -/
def Complete (providers : List Provider) : Prop := ∀ s, ∃ p ∈ providers, p.supports s = true

theorem complete_standard (dataAddress githubBase : String) :
    Complete (standard dataAddress githubBase) := by
  intro s
  rw [standard]
  cases s with
  | official name => exact ⟨.bulk dataAddress none, by simp, rfl⟩
  | url name address => exact ⟨.url [], by simp, rfl⟩
  | github name user => exact ⟨.github githubBase [], by simp, rfl⟩
  | file name path => exact ⟨.file [], by simp, rfl⟩
  | inline name entries => exact ⟨.inline, by simp, rfl⟩

/-- What providers remember has no part in what they support. -/
theorem Complete.of_forget {providers providers' : List Provider} (hcomplete : Complete providers)
    (h : providers'.map forget = providers.map forget) : Complete providers' := by
  intro s
  obtain ⟨p, hp, hsupports⟩ := hcomplete s
  have hmem : p.forget ∈ providers'.map forget := h ▸ List.mem_map.2 ⟨p, hp, rfl⟩
  obtain ⟨p', hp', hforget⟩ := List.mem_map.1 hmem
  exact ⟨p', hp', (Session.supports_of_forget hforget s).trans hsupports⟩

end Provider

namespace Session

open Provider

/-! ## One source -/

theorem loadFirst_error {w : World} {s : Source} {providers : List Provider} {failure : Failure}
    (hsupported : ∃ p ∈ providers, p.supports s = true)
    (h : loadFirst w s providers = .error failure) : Document.Unreadable failure := by
  induction providers with
  | nil =>
    obtain ⟨p, hp, _⟩ := hsupported
    cases hp
  | cons p rest ih =>
    rw [loadFirst] at h
    by_cases hsupports : p.supports s = true
    · rw [if_pos hsupports] at h
      exact load_error hsupports h
    · rw [if_neg hsupports] at h
      refine ih ?_ h
      obtain ⟨q, hq, hqs⟩ := hsupported
      rcases List.mem_cons.1 hq with rfl | hq
      · exact absurd hqs hsupports
      · exact ⟨q, hq, hqs⟩

theorem entries_error {session : Session} (hcomplete : Complete session.providers) {s : Source}
    {failure : Failure} (h : (entries s session).1 = .error failure) :
    Document.Unreadable failure := by
  obtain ⟨hnone, _⟩ := untouched_of_error h
  rw [(entries_loads hnone).result] at h
  exact loadFirst_error (hcomplete s) (Except.map_eq_error_iff.1 h)

theorem complete_entries {session : Session} (hcomplete : Complete session.providers)
    (s : Source) : Complete (entries s session).2.providers :=
  hcomplete.of_forget (forget_entries session s)

/-! ## Operations -/

/-- A session whose world may be another one each time that a source is asked for. -/
def shifting (next : Session → World) : Supply Run where
  entries s := fun session => entries s { session with world := next session }
  note := note

/-- With the world that the session has, these are the sources as they are. -/
theorem shifting_world : shifting Session.world = supply := rfl

/-- The session after some operations. -/
def afterOn (supply : Supply Run) (session : Session) : List Operation → Session
  | [] => session
  | o :: rest => (o.perform supply session).2.afterOn supply rest

/-- As long as every source has a provider it keeps one, and nothing fails for want of it. The
second computation does not count. -/
def provided : Coupling Run Run where
  Rel x _ := ∀ session, Complete session.providers →
    (∀ failure, (x session).1 = .error failure → failure.kind ≠ .implementation) ∧
      Complete (x session).2.providers
  pure a := fun session h => ⟨nofun, h⟩
  throw failure hkind := by
    refine fun session h => ⟨fun failure' hfailure => ?_, h⟩
    exact Except.error.inj hfailure ▸ hkind
  bind := by
    intro α β x y f g hx hf session h
    obtain ⟨hfailure, hcomplete⟩ := hx session h
    rw [Asking.bind_apply]
    rcases hsession : x session with ⟨r, session'⟩
    rw [hsession] at hfailure hcomplete
    cases r with
    | ok a => exact hf a session' hcomplete
    | error failure =>
      refine ⟨fun failure' hfailure' => ?_, hcomplete⟩
      exact Except.error.inj hfailure' ▸ hfailure failure rfl

theorem supplies_shifting (next : Session → World) :
    provided.Supplies Eq (shifting next) (shifting next) where
  entries := by
    rintro s _ rfl session h
    have hcomplete : Complete { session with world := next session }.providers := h
    exact ⟨fun failure hfailure => (entries_error hcomplete hfailure).kind_ne,
      complete_entries hcomplete s⟩
  note _ _ := fun session h => ⟨nofun, h⟩
  official _ := rfl

/-- One operation. -/
theorem perform_provided {session : Session} (h : Complete session.providers)
    (next : Session → World) (o : Operation) :
    (∀ failure, (o.perform (shifting next) session).1 = .error failure →
      failure.kind ≠ .implementation) ∧
    Complete (o.perform (shifting next) session).2.providers :=
  Operation.perform_coupled (supplies_shifting next)
    (Operation.matches_self (fun _ => rfl) o fun _ _ => rfl) session h

theorem complete_afterOn {session : Session} (h : Complete session.providers)
    (next : Session → World) (before : List Operation) :
    Complete (session.afterOn (shifting next) before).providers := by
  induction before generalizing session with
  | nil => exact h
  | cons o rest ih => exact ih (perform_provided h next o).2

/-- With the standard providers no operation fails for a fault of the program. In particular none
meets a source that no provider supports, whatever operations went before it and whatever the
world is each time that a source is asked for. -/
theorem never_unsupported (next : Session → World) (w : World) (dataAddress githubBase : String)
    (before : List Operation) (o : Operation) :
    let session := (start w (standard dataAddress githubBase)).afterOn (shifting next) before
    (∀ failure, (o.perform (shifting next) session).1 = .error failure →
      failure.kind ≠ .implementation) ∧
    ∀ source, (o.perform (shifting next) session).1 ≠
      .error (.unsupportedNamespaceSource source) := by
  intro session
  have hcomplete : Complete session.providers :=
    complete_afterOn (complete_standard dataAddress githubBase) next before
  obtain ⟨hfailure, _⟩ := perform_provided hcomplete next o
  exact ⟨hfailure, fun source hsource => hfailure _ hsource rfl⟩

end Session

namespace Sample

/-- A world whose file is there once it has been looked for. -/
def appearing (session : Session) : World :=
  fileOf (if session.accesses.isEmpty then none else some "\"ex 1\": https://a.example/\n")

/-- Namespaces of every form, of which the file is the most important. -/
def everywhere : Environment :=
  { environment with namespaces := [.official "o", .url none "http://ns.test/ns.yml",
      .github none "user", .inline none general, entryFile] }

def asking (text : String) : Operation := .process everywhere clock text

/-- The file is missing at first, and the official namespace of a prefix is out of reach; both are
failures of the use. Between them the file is found. -/
theorem everywhere_provided :
    let supply := Session.shifting appearing
    (∃ failure, ((asking "ex a").perform supply newSession).1 = .error failure ∧
      failure.kind ≠ .implementation) ∧
    ((asking "ex a").perform supply (newSession.afterOn supply [asking "ex a"])).1.isOk = true ∧
    ∃ failure, ((asking "zz.ex a").perform supply
        (newSession.afterOn supply [asking "ex a", asking "ex a"])).1 = .error failure ∧
      failure.kind ≠ .implementation := by
  intro supply
  have hprovided := Session.never_unsupported appearing (fileOf none) "http://data.test/data.json"
    "http://github.test/"
  obtain ⟨missing, hmissing⟩ :
      ∃ failure, ((asking "ex a").perform supply newSession).1 = .error failure :=
    Except.exists_of_isOk_eq_false (by decide +kernel)
  obtain ⟨outOfReach, hprefix⟩ :
      ∃ failure, ((asking "zz.ex a").perform supply
        (newSession.afterOn supply [asking "ex a", asking "ex a"])).1 = .error failure :=
    Except.exists_of_isOk_eq_false (by decide +kernel)
  exact ⟨⟨missing, hmissing, (hprovided [] (asking "ex a")).1 missing hmissing⟩,
    by decide +kernel, outOfReach, hprefix, (hprovided _ (asking "zz.ex a")).1 _ hprefix⟩

end Sample

end Shortcuts
