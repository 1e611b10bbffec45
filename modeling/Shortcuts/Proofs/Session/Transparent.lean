import Shortcuts.Proofs.Lookup.Asking
import Shortcuts.Proofs.Lookup.Coupling
import Shortcuts.Proofs.Session.Memory

/-!
Sessions in a world that stays as it is. Whatever has been asked before, an operation answers as
it does in a new session, provided that of the paths which are the same all can be read or none.
Otherwise there are two paths for which it does not.
-/
namespace Shortcuts

/-- What a session can be asked to do. -/
inductive Operation where
  | get (s : Source)
  | find (f : Finder) (key : String) (override : Option (List Source)) (depth : Nat)
  | findKeyword (f : Finder) (keyword : String) (count : Nat)
  | searchLowered (f : Finder) (query : String)
  | process (e : Environment) (clock : Template.Clock) (text : String)
  | search (e : Environment) (query : String)

inductive Answer where
  | entries (found : Option EntryMap)
  | shortcut (found : Option Shortcut)
  | shortcuts (found : KeyMap Shortcut)
  | outcome (o : Outcome)

namespace Operation

def perform {m : Type → Type} [Monad m] [MonadExcept Failure m] (supply : Supply m) :
    Operation → m Answer
  | get s => return .entries (← supply.entries s)
  | find f key override depth => return .shortcut (← f.find supply key override depth)
  | findKeyword f keyword count => return .shortcut (← f.findKeyword supply keyword count)
  | searchLowered f query => return .shortcuts (← f.searchLowered supply query)
  | process e clock text => return .outcome (← e.process supply clock text)
  | search e query => return .shortcuts (← e.search supply query)

/-- The sources that an operation names; beyond them includes lead to official ones only. -/
def sources : Operation → List Source
  | get s => [s]
  | find f _ override _ => override.getD f.namespaces
  | findKeyword f .. | searchLowered f _ => f.namespaces
  | process e .. | search e _ => e.namespaces

def Within (paths : String → Prop) (o : Operation) : Prop := ∀ s ∈ o.sources, s.Within paths

/-- The same operation on sources that match. -/
inductive Matches (alike : Source → Source → Prop) : Operation → Operation → Prop
  | get {s s' : Source} (h : alike s s') : Matches alike (get s) (get s')
  | find {f f' : Finder} {override override' : Option (List Source)}
    (hlanguage : f.language = f'.language)
    (h : List.Forall₂ alike (override.getD f.namespaces) (override'.getD f'.namespaces))
    (key : String) (depth : Nat) :
    Matches alike (find f key override depth) (find f' key override' depth)
  | findKeyword {f f' : Finder} (h : f.Matches alike f') (keyword : String) (count : Nat) :
    Matches alike (findKeyword f keyword count) (findKeyword f' keyword count)
  | searchLowered {f f' : Finder} (h : f.Matches alike f') (query : String) :
    Matches alike (searchLowered f query) (searchLowered f' query)
  | process {e e' : Environment} {text : String} (h : e.Matches alike (Query.parse text) e')
    (clock : Template.Clock) : Matches alike (process e clock text) (process e' clock text)
  | search {e e' : Environment} (h : e.finder.Matches alike e'.finder) (query : String) :
    Matches alike (search e query) (search e' query)

theorem matches_self {alike : Source → Source → Prop}
    (hofficial : ∀ name, alike (.official name) (.official name)) (o : Operation)
    (h : ∀ s ∈ o.sources, alike s s) : o.Matches alike o := by
  cases o with
  | get s => exact .get (h s (List.mem_singleton.2 rfl))
  | find f key override depth => exact .find rfl (List.forall₂_same.2 h) key depth
  | findKeyword f keyword count => exact .findKeyword (Finder.matches_self h) keyword count
  | searchLowered f query => exact .searchLowered (Finder.matches_self h) query
  | process e clock text => exact .process (Environment.matches_self hofficial h _) clock
  | search e query => exact .search (Finder.matches_self h) query

theorem perform_coupled {m n : Type → Type} [Monad m] [MonadExcept Failure m] [Monad n]
    [MonadExcept Failure n] {c : Coupling m n} {alike : Source → Source → Prop} {supply : Supply m}
    {supply' : Supply n} (h : c.Supplies alike supply supply') {o o' : Operation}
    (ho : o.Matches alike o') : c.Rel (o.perform supply) (o'.perform supply') := by
  cases ho with
  | get hs => exact c.bind (h.entries _ _ hs) fun _ => c.pure _
  | find hlanguage halike key depth =>
    exact c.bind (Finder.find_coupled h hlanguage key halike depth) fun _ => c.pure _
  | findKeyword hf keyword count =>
    exact c.bind (Finder.findKeyword_coupled h hf keyword count) fun _ => c.pure _
  | searchLowered hf query =>
    exact c.bind (Finder.searchLowered_coupled h hf query) fun _ => c.pure _
  | process he clock =>
    exact c.bind (Environment.process_coupled h he clock) fun _ => c.pure _
  | search hf query =>
    exact c.bind (Finder.searchLowered_coupled h hf _) fun _ => c.pure _

end Operation

namespace Session

/-- Providers asked anew each time. -/
def direct (w : World) (providers : List Provider) : Supply (Except Failure) where
  entries s := ((askFirst w s providers).map (·.1.result)).getD
    (.error (.unsupportedNamespaceSource s.display))
  note _ := .ok ()

/-- A session whose providers, if they forgot, would be these, and which recall nothing wrong. -/
structure Settled (w : World) (providers : List Provider) (paths : String → Prop)
    (session : Session) : Prop where
  world : session.world = w
  forgotten : session.providers.map Provider.forget = providers
  recalls : ∀ p ∈ session.providers, p.Recalls w paths

section Asking

variable {w : World} {paths : String → Prop} {s : Source} {known : List Provider}

theorem result_askFirst (halike : Provider.ReadableAlike w paths) (hs : s.Within paths)
    (hknown : ∀ p ∈ known, p.Recalls w paths) :
    (askFirst w s known).map (·.1.result) =
      (askFirst w s (known.map Provider.forget)).map (·.1.result) := by
  induction known with
  | nil => rfl
  | cons p rest ih =>
    rw [List.forall_mem_cons] at hknown
    rw [List.map_cons, askFirst, askFirst, Provider.supports_forget]
    by_cases hsupports : p.supports s = true
    · rw [if_pos hsupports, if_pos hsupports]
      exact congrArg some (hknown.1.get halike hs).1
    · rw [if_neg hsupports, if_neg hsupports, Option.map_map, Option.map_map]
      exact ih hknown.2

theorem recalls_askFirst (halike : Provider.ReadableAlike w paths) (hs : s.Within paths)
    (hknown : ∀ p ∈ known, p.Recalls w paths) {reply : Reply} {known' : List Provider}
    (h : askFirst w s known = some (reply, known')) :
    known'.map Provider.forget = known.map Provider.forget ∧
    ∀ p ∈ known', p.Recalls w paths := by
  induction known generalizing known' with
  | nil => cases h
  | cons p rest ih =>
    rw [List.forall_mem_cons] at hknown
    rw [askFirst] at h
    by_cases hsupports : p.supports s = true
    · rw [if_pos hsupports] at h
      obtain ⟨_, hforget, hrecalls⟩ := hknown.1.get halike hs
      obtain ⟨rfl, rfl⟩ := Prod.mk.inj (Option.some.inj h)
      rw [List.map_cons, List.map_cons, hforget, List.forall_mem_cons]
      exact ⟨rfl, hrecalls, hknown.2⟩
    · rw [if_neg hsupports] at h
      obtain ⟨⟨reply', rest'⟩, hrest, heq⟩ := Option.map_eq_some_iff.1 h
      obtain ⟨rfl, rfl⟩ := Prod.mk.inj heq
      obtain ⟨hforget, hrecalls⟩ := ih hknown.2 hrest
      rw [List.map_cons, List.map_cons, hforget, List.forall_mem_cons]
      exact ⟨rfl, hknown.1, hrecalls⟩

end Asking

/-- A computation in a session answers like one that has no memory, and leaves a session that is
settled again. -/
def coupling (w : World) (providers : List Provider) (paths : String → Prop) :
    Coupling Run (Except Failure) where
  Rel x y := ∀ session, Settled w providers paths session →
    (x session).1 = y ∧ Settled w providers paths (x session).2
  pure a := fun session h => ⟨rfl, h⟩
  throw failure _ := fun session h => ⟨rfl, h⟩
  bind := by
    intro α β x y f g hx hf session h
    obtain ⟨rfl, hsettled⟩ := hx session h
    rw [Asking.bind_apply]
    rcases hsession : x session with ⟨r, session'⟩
    rw [hsession] at hsettled
    cases r with
    | ok a => exact hf a session' hsettled
    | error failure => exact ⟨rfl, hsettled⟩

variable {w : World} {providers : List Provider} {paths : String → Prop}

theorem supplies_direct (halike : Provider.ReadableAlike w paths) :
    (coupling w providers paths).Supplies (fun s s' => s = s' ∧ s.Within paths) supply
      (direct w providers) where
  entries := by
    rintro s _ ⟨rfl, hs⟩ session h
    have hresult := result_askFirst halike hs h.recalls
    rw [h.forgotten] at hresult
    have hdirect : (direct w providers).entries s =
        ((askFirst w s providers).map (·.1.result)).getD
          (.error (.unsupportedNamespaceSource s.display)) := rfl
    have hentries : supply.entries s session = entries s session := rfl
    rw [hdirect, ← hresult, hentries, entries, h.world]
    cases hask : askFirst w s session.providers with
    | none => exact ⟨rfl, h⟩
    | some asked =>
      obtain ⟨reply, providers'⟩ := asked
      obtain ⟨hforget, hrecalls⟩ := recalls_askFirst halike hs h.recalls hask
      exact ⟨rfl, rfl, hforget.trans h.forgotten, hrecalls⟩
  note _ _ := fun session h => ⟨rfl, h.world, h.forgotten, h.recalls⟩
  official name := ⟨rfl, trivial⟩

/-- One operation. -/
theorem Settled.perform {session : Session} (h : session.Settled w providers paths)
    (halike : Provider.ReadableAlike w paths) {o : Operation} (ho : o.Within paths) :
    (o.perform supply session).1 = o.perform (direct w providers) ∧
    (o.perform supply session).2.Settled w providers paths :=
  Operation.perform_coupled (supplies_direct halike)
    (Operation.matches_self (fun _ => ⟨rfl, trivial⟩) o fun s hs => ⟨rfl, ho s hs⟩) session h

/-- The session after some operations. -/
def after (session : Session) : List Operation → Session
  | [] => session
  | o :: rest => (o.perform supply session).2.after rest

theorem Settled.after {session : Session} (h : session.Settled w providers paths)
    (halike : Provider.ReadableAlike w paths) {before : List Operation}
    (hbefore : ∀ o ∈ before, o.Within paths) : (session.after before).Settled w providers paths := by
  induction before generalizing session with
  | nil => exact h
  | cons o rest ih =>
    rw [List.forall_mem_cons] at hbefore
    exact ih (h.perform halike hbefore.1).2 hbefore.2

theorem settled_start (hforgotten : providers.map Provider.forget = providers) :
    (start w providers).Settled w providers paths := by
  refine ⟨rfl, hforgotten, fun p hp => ?_⟩
  rw [start, ← hforgotten] at hp
  obtain ⟨p', _, rfl⟩ := List.mem_map.1 hp
  exact Provider.recalls_forget p'

/-- With the standard providers every operation answers as in a new session, whatever operations
went before it. -/
def Transparent (w : World) (dataAddress githubBase : String) (paths : String → Prop) : Prop :=
  ∀ (before : List Operation) (o : Operation), (∀ o ∈ before, o.Within paths) → o.Within paths →
    (o.perform supply ((start w (Provider.standard dataAddress githubBase)).after before)).1 =
      (o.perform supply (start w (Provider.standard dataAddress githubBase))).1

theorem perform_get (s : Source) (session : Session) :
    (Operation.get s).perform supply session =
      ((entries s session).1.map .entries, (entries s session).2) := by
  have hbind := Asking.bind_apply (supply.entries s) (fun found => pure (Answer.entries found)) session
  have hentries : supply.entries s session = entries s session := rfl
  rw [hentries] at hbind
  refine hbind.trans ?_
  rcases entries s session with ⟨_ | _, session'⟩ <;> rfl

/-- The standard providers when nothing but files has been asked for. -/
def knowingFiles (dataAddress githubBase : String) (known : List (List (List Char) × EntryMap)) :
    List Provider :=
  [.bulk dataAddress none, .inline, .url [], .github githubBase [], .file known]

theorem entries_file (dataAddress githubBase path : String)
    (known : List (List (List Char) × EntryMap)) (events : List Event) (accesses : List Access) :
    let reply := Provider.remembered known (Path.parts path) (Provider.readFile w path) .file
    entries (.file none path) ⟨w, knowingFiles dataAddress githubBase known, events, accesses⟩ =
      (reply.result, ⟨w, [.bulk dataAddress none, .inline, .url [], .github githubBase [],
        reply.provider], reply.events.reverse ++ .fetching path :: events,
        reply.accesses.reverse ++ accesses⟩) := rfl

theorem start_standard (dataAddress githubBase : String) :
    start w (Provider.standard dataAddress githubBase) =
      ⟨w, knowingFiles dataAddress githubBase [], [], []⟩ := rfl

theorem entries_first (dataAddress githubBase path : String) :
    (entries (.file none path) (start w (Provider.standard dataAddress githubBase))).1 =
      (Provider.readFile w path).value.map some := by
  rw [start_standard, entries_file]
  simp only [Provider.remembered, List.lookup_nil]
  cases (Provider.readFile w path).value <;> rfl

/-- A file that has been read is remembered for all paths with its parts. -/
theorem entries_after_get {p q : String} {found : EntryMap} (dataAddress githubBase : String)
    (hread : (Provider.readFile w p).value = .ok found) (h : Path.parts p = Path.parts q) :
    (entries (.file none q) ((start w (Provider.standard dataAddress githubBase)).after
      [.get (.file none p)])).1 = .ok (some found) := by
  rw [after, after, perform_get, start_standard, entries_file]
  simp only [Provider.remembered, List.lookup_nil, hread]
  rw [← knowingFiles, entries_file, Provider.remembered, h, List.lookup_cons_self]

theorem Transparent.readableAlike {dataAddress githubBase : String}
    (h : Transparent w dataAddress githubBase paths) : Provider.ReadableAlike w paths := by
  intro p q hp hq hsame ⟨found, hread⟩
  have hget : ∀ path, paths path → (Operation.get (.file none path)).Within paths := by
    intro path hpath s hs
    rw [List.mem_singleton.1 hs]
    exact hpath
  -- Once `p` has been read a session has the entries of `q` too, so a new one must find them.
  have htwice := h [.get (.file none p)] (.get (.file none q))
    (List.forall_mem_singleton.2 (hget p hp)) (hget q hq)
  rw [perform_get, perform_get, entries_first,
    entries_after_get dataAddress githubBase hread (of_decide_eq_true hsame)] at htwice
  cases hfresh : (Provider.readFile w q).value with
  | ok found' => exact ⟨found', hfresh⟩
  | error failure =>
    rw [hfresh] at htwice
    cases htwice

/-- Sessions are transparent exactly where of the paths that are the same all can be read or
none. -/
theorem transparent_iff (w : World) (dataAddress githubBase : String) (paths : String → Prop) :
    Transparent w dataAddress githubBase paths ↔ Provider.ReadableAlike w paths := by
  constructor
  · exact Transparent.readableAlike
  · intro halike before o hbefore ho
    have hstart : (start w (Provider.standard dataAddress githubBase)).Settled w
        (Provider.standard dataAddress githubBase) paths := settled_start rfl
    rw [((hstart.after halike hbefore).perform halike ho).1, (hstart.perform halike ho).1]

end Session

namespace Sample

/-- A world with nothing but a file of one entry. -/
def lonelyFile : World where
  files := ⟨[], [(["a.yml".toList],
    .file (.text "\"ex 1\": https://example.com/?q=\x7b%q\x7d\n") false)]⟩
  network := .down

/-- Once the file has been read it is there for its path with a slash behind as well, which a new
session cannot read. -/
theorem lonelyFile_not_transparent :
    ¬ Session.Transparent lonelyFile "http://data.test/data.json" "http://github.test/"
      fun _ => True := by
  intro h
  have hslash := h.readableAlike "a.yml" "a.yml/" trivial trivial (by decide +kernel)
    (by decide +kernel)
  have hnot : ¬ Provider.Readable lonelyFile "a.yml/" := by decide +kernel
  exact hnot hslash

end Sample

end Shortcuts
