import Shortcuts.Proofs.Session.Snapshot

/-!
Sessions in a world that changes. The first state of a document that can be read when it is asked
for is what the session keeps of it: from then on the document is not looked at again, whatever
has become of it. As long as it could not be read, each get is decided by the world at its time.
-/
namespace Shortcuts

namespace Session

/-- What the provider in charge of a source has kept of its document. -/
def keptFirst (s : Source) : List Provider → Option Snapshot
  | [] => none
  | p :: rest => if p.supports s then p.kept? s else keptFirst s rest

/-- The document of a source in a world, as the provider in charge of it reads it. -/
def loadFirst (w : World) (s : Source) : List Provider → Except Failure Snapshot
  | [] => .error (.unsupportedNamespaceSource s.display)
  | p :: rest => if p.supports s then p.load w s else loadFirst w s rest

theorem loadFirst_forget (w : World) (s : Source) (providers : List Provider) :
    loadFirst w s (providers.map Provider.forget) = loadFirst w s providers := by
  induction providers with
  | nil => rfl
  | cons p rest ih =>
    rw [List.map_cons, loadFirst, loadFirst, ih, Provider.supports_forget, Provider.load_forget]

theorem loadFirst_congr {providers providers' : List Provider}
    (h : providers.map Provider.forget = providers'.map Provider.forget) (w : World) (s : Source) :
    loadFirst w s providers = loadFirst w s providers' := by
  rw [← loadFirst_forget, h, loadFirst_forget]

theorem keptFirst_of_sharesDocument {s t : Source} (h : t.sharesDocument s = true)
    (providers : List Provider) : keptFirst t providers = keptFirst s providers := by
  induction providers with
  | nil => rfl
  | cons p rest ih =>
    rw [keptFirst, keptFirst, ih, Provider.supports_of_sharesDocument h,
      Provider.kept?_of_sharesDocument h]

variable {w : World} {s : Source} {providers : List Provider}

theorem askFirst_of_kept {d : Snapshot} (h : keptFirst s providers = some d) :
    ∃ p, askFirst w s providers = some (⟨.ok (d.about s), p, [], []⟩, providers) := by
  induction providers with
  | nil => cases h
  | cons p rest ih =>
    rw [keptFirst] at h
    rw [askFirst]
    by_cases hsupports : p.supports s = true
    · rw [if_pos hsupports] at h
      rw [if_pos hsupports, Provider.get_of_kept? h]
      exact ⟨p, rfl⟩
    · rw [if_neg hsupports] at h
      obtain ⟨q, hrest⟩ := ih h
      rw [if_neg hsupports, hrest]
      exact ⟨q, rfl⟩

/-- What asking for a source does to a list of providers that keep nothing of its document. -/
structure LoadsFirst (s : Source) (providers : List Provider) (loaded : Except Failure Snapshot)
    (result : Except Failure (Option EntryMap)) (after : List Provider) : Prop where
  result : result = loaded.map (·.about s)
  forgotten : after.map Provider.forget = providers.map Provider.forget
  untouched : ∀ failure, loaded = .error failure → after = providers
  kept : ∀ t, keptFirst t after =
    (keptFirst t providers).or (if t.sharesDocument s then loaded.toOption else none)

theorem supports_of_forget {p q : Provider} (h : p.forget = q.forget) (t : Source) :
    p.supports t = q.supports t := by
  rw [← Provider.supports_forget p, h, Provider.supports_forget]

theorem askFirst_eq_none (h : askFirst w s providers = none) :
    loadFirst w s providers = .error (.unsupportedNamespaceSource s.display) := by
  induction providers with
  | nil => rfl
  | cons p rest ih =>
    rw [askFirst] at h
    by_cases hsupports : p.supports s = true
    · simp [hsupports] at h
    · rw [if_neg hsupports, Option.map_eq_none_iff] at h
      rw [loadFirst, if_neg hsupports, ih h]

theorem askFirst_loads (h : keptFirst s providers = none) {reply : Reply}
    {after : List Provider} (hask : askFirst w s providers = some (reply, after)) :
    LoadsFirst s providers (loadFirst w s providers) reply.result after := by
  induction providers generalizing after with
  | nil => cases hask
  | cons p rest ih =>
    rw [keptFirst] at h
    rw [askFirst] at hask
    rw [loadFirst]
    by_cases hsupports : p.supports s = true
    · rw [if_pos hsupports] at h hask ⊢
      obtain ⟨rfl, rfl⟩ := Prod.mk.inj (Option.some.inj hask)
      obtain ⟨hresult, hforgotten, huntouched, hkept⟩ := Provider.loads_of_not_kept? (w := w) h
      refine ⟨hresult, by rw [List.map_cons, List.map_cons, hforgotten],
        fun failure hfailure => by rw [huntouched failure hfailure], fun t => ?_⟩
      rw [keptFirst, keptFirst, supports_of_forget hforgotten]
      by_cases ht : p.supports t = true
      · rw [if_pos ht, if_pos ht, hkept]
      · have hnot : ¬ t.sharesDocument s = true := fun hshares =>
          ht ((Provider.supports_of_sharesDocument hshares p).trans hsupports)
        rw [if_neg ht, if_neg ht, if_neg hnot, Option.or_none]
    · rw [if_neg hsupports] at h hask ⊢
      obtain ⟨⟨reply', rest'⟩, hrest, heq⟩ := Option.map_eq_some_iff.1 hask
      obtain ⟨rfl, rfl⟩ := Prod.mk.inj heq
      obtain ⟨hresult, hforgotten, huntouched, hkept⟩ := ih h hrest
      refine ⟨hresult, by rw [List.map_cons, List.map_cons, hforgotten],
        fun failure hfailure => by rw [huntouched failure hfailure], fun t => ?_⟩
      rw [keptFirst, keptFirst, hkept]
      by_cases ht : p.supports t = true
      · have hnot : ¬ t.sharesDocument s = true := fun hshares =>
          hsupports ((Provider.supports_of_sharesDocument hshares p).symm.trans ht)
        rw [if_pos ht, if_pos ht, if_neg hnot, Option.or_none]
      · rw [if_neg ht, if_neg ht]

/-! ## Gets and changes of the world -/

def kept? (session : Session) (s : Source) : Option Snapshot := keptFirst s session.providers

/-- The document of a source as a session would read it now. -/
def load (session : Session) (s : Source) : Except Failure Snapshot :=
  loadFirst session.world s session.providers

theorem entries_of_kept? {session : Session} {d : Snapshot} (h : session.kept? s = some d) :
    entries s session =
      (.ok (d.about s), { session with events := .fetching s.display :: session.events }) := by
  obtain ⟨p, hask⟩ := askFirst_of_kept (w := session.world) h
  rw [entries, hask]
  rfl

theorem world_entries (session : Session) (s : Source) :
    (entries s session).2.world = session.world := by
  rw [entries]
  cases askFirst session.world s session.providers <;> rfl

theorem entries_loads {session : Session} (h : session.kept? s = none) :
    LoadsFirst s session.providers (session.load s) (entries s session).1
      (entries s session).2.providers := by
  rw [entries]
  cases hask : askFirst session.world s session.providers with
  | none =>
    rw [load, askFirst_eq_none hask]
    exact ⟨rfl, rfl, fun _ _ => rfl, fun t => by simp [Except.toOption]⟩
  | some asked => exact askFirst_loads h hask

/-- A document is kept from the first time that it is asked for and can be read. -/
theorem kept?_entries (session : Session) (s t : Source) :
    (entries s session).2.kept? t = (session.kept? t).or
      (if t.sharesDocument s then (session.load s).toOption else none) := by
  cases h : session.kept? s with
  | none => exact (entries_loads h).kept t
  | some d =>
    rw [entries_of_kept? h]
    change session.kept? t = _
    split
    · rename_i hshares
      rw [kept?, keptFirst_of_sharesDocument hshares, ← kept?, h]
      rfl
    · rw [Option.or_none]

theorem forget_entries (session : Session) (s : Source) :
    (entries s session).2.providers.map Provider.forget =
      session.providers.map Provider.forget := by
  cases h : session.kept? s with
  | none => exact (entries_loads h).forgotten
  | some d => rw [entries_of_kept? h]

/-- What can happen to a session whose world changes. -/
inductive Step where
  | get (s : Source)
  | change (w : World)

/-- The session after some steps. -/
def through (session : Session) : List Step → Session
  | [] => session
  | .get s :: rest => (entries s session).2.through rest
  | .change w :: rest => { session with world := w }.through rest

/-- The document of a source as it was when it was asked for and could be read first, if it ever
could; the worlds and the gets come in the order of the steps. -/
def firstLoaded (providers : List Provider) (s : Source) : World → List Step → Option Snapshot
  | _, [] => none
  | w, .get t :: rest =>
    (if s.sharesDocument t then (loadFirst w t providers).toOption else none).or
      (firstLoaded providers s w rest)
  | _, .change w :: rest => firstLoaded providers s w rest

theorem firstLoaded_congr {providers providers' : List Provider}
    (h : providers.map Provider.forget = providers'.map Provider.forget) (s : Source) (w : World)
    (steps : List Step) : firstLoaded providers s w steps = firstLoaded providers' s w steps := by
  induction steps generalizing w with
  | nil => rfl
  | cons step rest ih =>
    cases step with
    | get t =>
      rw [firstLoaded, firstLoaded, ih, loadFirst_congr h]
    | change w' => exact ih w'

theorem forget_through (session : Session) (steps : List Step) :
    (session.through steps).providers.map Provider.forget =
      session.providers.map Provider.forget := by
  induction steps generalizing session with
  | nil => rfl
  | cons step rest ih =>
    cases step with
    | get t => exact (ih _).trans (forget_entries session t)
    | change w => exact ih _

/-- After any steps a session keeps what it kept before, and else the first that it could load. -/
theorem kept?_through (session : Session) (s : Source) (steps : List Step) :
    (session.through steps).kept? s =
      (session.kept? s).or (firstLoaded session.providers s session.world steps) := by
  induction steps generalizing session with
  | nil => simp [through, firstLoaded]
  | cons step rest ih =>
    cases step with
    | get t =>
      rw [through, firstLoaded, ih, kept?_entries, world_entries,
        firstLoaded_congr (forget_entries session t), Option.or_assoc]
      rfl
    | change w => exact ih _

/-- Whatever happens from now on, a source with the document of this one gets what the snapshot
says, and the world is not looked at for it. -/
def Keeps (session : Session) (s : Source) (d : Snapshot) : Prop :=
  ∀ later t, t.sharesDocument s = true →
    let now := session.through later
    entries t now =
      (.ok (d.about t), { now with events := .fetching t.display :: now.events })

theorem keeps_of_kept? {session : Session} {s : Source} {d : Snapshot}
    (h : ∀ t, t.sharesDocument s = true → session.kept? t = some d) : session.Keeps s d := by
  intro later t ht
  apply entries_of_kept?
  rw [kept?_through, h t ht]
  rfl

theorem keeps_of_ok {session : Session} {found : Option EntryMap}
    (h : (entries s session).1 = .ok found) :
    ∃ d, (session.kept? s).or (session.load s).toOption = some d ∧ d.about s = found ∧
      (entries s session).2.Keeps s d := by
  have hsome : ∃ d, (session.kept? s).or (session.load s).toOption = some d ∧
      d.about s = found := by
    cases hkept : session.kept? s with
    | some d =>
      rw [entries_of_kept? hkept] at h
      exact ⟨d, rfl, Except.ok.inj h⟩
    | none =>
      rw [(entries_loads hkept).result, Except.map_eq_ok_iff] at h
      obtain ⟨d, hd, habout⟩ := h
      exact ⟨d, by rw [hd]; rfl, habout⟩
  obtain ⟨d, hd, habout⟩ := hsome
  refine ⟨d, hd, habout, keeps_of_kept? fun t ht => ?_⟩
  rw [kept?_entries, if_pos ht, kept?, keptFirst_of_sharesDocument ht]
  exact hd

theorem untouched_of_error {session : Session} {failure : Failure}
    (h : (entries s session).1 = .error failure) :
    session.kept? s = none ∧ (entries s session).2.providers = session.providers := by
  cases hkept : session.kept? s with
  | some d =>
    rw [entries_of_kept? hkept] at h
    cases h
  | none =>
    obtain ⟨hresult, _, huntouched, _⟩ := entries_loads hkept
    exact ⟨rfl, huntouched failure (Except.map_eq_error_iff.1 (hresult.symm.trans h))⟩

theorem kept?_start (w : World) (dataAddress githubBase : String) (s : Source) :
    (start w (Provider.standard dataAddress githubBase)).kept? s = none := by
  cases s <;> rfl

/-- A get that succeeds gives what the first readable state of the document says, and all later
gets of the document do so as well. A get that fails leaves all providers as they are, and as long
as the document cannot be read when it is asked for, each get is decided by the world at its
time. -/
theorem first_document_stays (dataAddress githubBase : String) (w : World) (before : List Step)
    (s : Source) :
    let providers := Provider.standard dataAddress githubBase
    let session := (start w providers).through before
    (∀ found, (entries s session).1 = .ok found →
      ∃ d, (firstLoaded providers s w before).or
          (loadFirst session.world s providers).toOption = some d ∧
        d.about s = found ∧ (entries s session).2.Keeps s d) ∧
    ∀ failure, (entries s session).1 = .error failure →
      (entries s session).2.providers = session.providers ∧
      ∀ later, firstLoaded providers s session.world later = none →
        let now := (entries s session).2.through later
        (entries s now).1 = (loadFirst now.world s providers).map (·.about s) := by
  intro providers session
  have hforget : session.providers.map Provider.forget = providers.map Provider.forget :=
    forget_through _ before
  have hload : session.load s = loadFirst session.world s providers := loadFirst_congr hforget ..
  have hkept : session.kept? s = firstLoaded providers s w before := by
    rw [kept?_through, kept?_start, Option.none_or]
    rfl
  constructor
  · intro found hfound
    rw [← hkept, ← hload]
    exact keeps_of_ok hfound
  · intro failure hfailure
    obtain ⟨hnone, hproviders⟩ := untouched_of_error hfailure
    refine ⟨hproviders, fun later hlater => ?_⟩
    have hthen : ((entries s session).2.through later).kept? s = none := by
      rw [kept?_through, kept?, hproviders, world_entries, firstLoaded_congr hforget, hlater,
        ← kept?, hnone]
      rfl
    have hstill : ((entries s session).2.through later).providers.map Provider.forget =
        providers.map Provider.forget := by
      rw [forget_through, hproviders, hforget]
    change (entries s ((entries s session).2.through later)).1 = _
    rw [(entries_loads hthen).result, load, loadFirst_congr hstill]

end Session

namespace Sample

/-- A world with nothing but a file, if it has a content. -/
def fileOf (content : Option String) : World where
  files := ⟨[], content.toList.map fun text => (["a.yml".toList], .file (.text text) false)⟩
  network := .down

def entryFile : Source := .file none "a.yml"

def newSession : Session :=
  Session.start (fileOf none) (Provider.standard "http://data.test/data.json" "http://github.test/")

/-- The file is asked for before it is there. -/
def appeared : List Session.Step :=
  [.get entryFile, .change (fileOf (some "\"ex 1\": https://a.example/\n"))]

def rewritten : List Session.Step := [.change (fileOf (some "- no mapping of search keys\n"))]

/-- A file that is missing at first is read once it is there, and what is written over it later
is not looked at. -/
theorem rewrittenFile_stays :
    ∃ found failure, (Session.entries entryFile newSession).1 = .error failure ∧
      (Session.entries entryFile (newSession.through appeared)).1 = .ok (some found) ∧
      found.get? "ex 1" = some (.short "https://a.example/") ∧
      (Session.entries entryFile ((Session.entries entryFile
        (newSession.through appeared)).2.through rewritten)).1 = .ok (some found) := by
  have hread : (Session.entries entryFile (newSession.through appeared)).1 =
      .ok (some (.ofList [("ex 1", .short "https://a.example/")])) :=
    Except.toOption_eq_some_iff.1 (by decide +kernel)
  have hmissing : (Session.entries entryFile newSession).1.isOk = false := by decide +kernel
  have hstays := Session.first_document_stays "http://data.test/data.json" "http://github.test/"
    (fileOf none) appeared entryFile
  obtain ⟨d, _, habout, hkeeps⟩ := hstays.1 _ hread
  have hlater := congrArg Prod.fst (hkeeps rewritten entryFile (by decide))
  cases hfailure : (Session.entries entryFile newSession).1 with
  | ok found =>
    rw [hfailure] at hmissing
    cases hmissing
  | error failure => exact ⟨_, failure, rfl, hread, rfl, hlater.trans (congrArg _ habout)⟩

end Sample

end Shortcuts
