import Shortcuts.Proofs.Session.Changing
import Shortcuts.Proofs.Session.Transparent

/-!
What a lookup does not consult. It ends at the most important source that fails or has the key.
With an entry that includes nothing its answer is that entry, whatever the sources below are and
whether or not they can be had, and none of them is asked for. In a session this means that no
request is sent and no file read for them.
-/
namespace Shortcuts

open Lookup

namespace Session

/-- All of a session but the events that it has noted. -/
def quiet (session : Session) : Session := { session with events := [] }

/-- What asking for a source makes of a session. -/
def asked (s : Source) (session : Session) : Session := (entries s session).2.quiet

theorem records : supply.Records quiet asked where
  entries s session := by
    have hentries : supply.entries s session = entries s session := rfl
    have hworld : session.quiet.world = session.world := rfl
    have hproviders : session.quiet.providers = session.providers := rfl
    rw [asked, hentries, entries, entries, hworld, hproviders]
    cases askFirst session.world s session.providers <;> rfl
  note _ _ := rfl

theorem independent {w : World} {providers : List Provider} {paths : String → Prop}
    (halike : Provider.ReadableAlike w paths) {sources : List Source}
    (hsources : ∀ s ∈ sources, s.Within paths) :
    supply.Independent sources (direct w providers).entries (Settled w providers paths) where
  entries s hs := (supplies_direct halike).entries s s ⟨rfl, hsources s hs⟩
  note _ := fun _ h => ⟨rfl, h.world, h.forgotten, h.recalls⟩

/-- Requests, files that are read and what providers remember: after a lookup that ends with an
entry without an include, all of them are as if the source of the entry and those above it had been
asked for one by one. -/
theorem quiet_find {w : World} {providers : List Provider} {paths : String → Prop}
    (halike : Provider.ReadableAlike w paths) {session : Session}
    (h : session.Settled w providers paths) {s : Source} {above below : List Source}
    (hwithin : ∀ t ∈ s :: above, t.Within paths) {key : String}
    (hsilent : Silent (direct w providers).entries key above) {entries : EntryMap} {e : Entry}
    (hentries : (direct w providers).entries s = .ok (some entries))
    (he : entries.get? key = some e) (hplain : e.include? = none) (f : Finder)
    {override : Option (List Source)} (hsplit : override.getD f.namespaces = below ++ s :: above)
    (depth : Nat) :
    (f.find supply key override (depth + 1) session).2.quiet =
      (s :: above).foldr asked session.quiet := by
  obtain ⟨session', hrecorded, hfind⟩ := find_of_plain (independent halike hwithin) records h
    hsilent f.language depth below hentries he hplain
  rw [f.find_eq, hsplit, hfind]
  exact hrecorded

end Session

namespace Finder

variable {σ κ : Type} {supply : Supply (Asking σ)}
  {yield : Source → Except Failure (Option EntryMap)} {Reached : σ → Prop}
  {record : σ → κ} {add : Source → κ → κ}

/-- Without a source that fails or has the key, a lookup finds nothing. Otherwise the most
important such source decides: if it fails, so does the lookup, and if its entry includes nothing,
that is what is found. What the lookup leaves behind comes from asking that source and those above
it only, and over any other sources, asked of any other dispatcher, the answer is the same. -/
theorem find_ends_at_verdict (f : Finder) (override : Option (List Source))
    (hyield : supply.Independent (override.getD f.namespaces) yield Reached)
    (hrecord : supply.Records record add) (key : String) (depth : Nat) {st : σ}
    (hst : Reached st) :
    let result := f.find supply key override (depth + 1) st
    (Silent yield key (override.getD f.namespaces) → result.1 = .ok none) ∧
    ∀ below s above, override.getD f.namespaces = below ++ s :: above → Silent yield key above →
      (∀ failure, yield s = .error failure → result.1 = .error failure ∧
        record result.2 = (s :: above).foldr add (record st)) ∧
      ∀ entries e, yield s = .ok (some entries) → entries.get? key = some e → e.include? = none →
        result.1 = .ok (some e.own) ∧
        record result.2 = (s :: above).foldr add (record st) ∧
        ∀ (σ' : Type) (supply' : Supply (Asking σ')) (Reached' : σ' → Prop) (st' : σ')
          (f' : Finder) override' below', supply'.Independent (s :: above) yield Reached' →
          Reached' st' → override'.getD f'.namespaces = below' ++ s :: above →
          (f'.find supply' key override' (depth + 1) st').1 = .ok (some e.own) := by
  intro result
  have hresult : result =
      Lookup.find supply f.language (depth + 1) (override.getD f.namespaces) key st :=
    congrFun (f.find_eq supply (depth + 1) key override) st
  constructor
  · intro hsilent
    obtain ⟨_, _, hfind⟩ := find_of_silent hyield hrecord hst f.language depth hsilent
    rw [hresult, hfind]
  intro below s above hsplit hsilent
  have hbelow : supply.Independent (s :: above) yield Reached :=
    hyield.mono (hsplit ▸ List.subset_append_right below (s :: above))
  rw [hsplit] at hresult
  constructor
  · intro failure hfails
    obtain ⟨st', hrecorded, hfind⟩ :=
      find_of_failing hbelow hrecord hst hsilent f.language depth below hfails
    rw [hresult, hfind]
    exact ⟨rfl, hrecorded⟩
  · intro entries e hentries he hplain
    obtain ⟨st', hrecorded, hfind⟩ :=
      find_of_plain hbelow hrecord hst hsilent f.language depth below hentries he hplain
    rw [hresult, hfind]
    refine ⟨rfl, hrecorded, ?_⟩
    intro σ' supply' Reached' st' f' override' below' hyield' hst' hsplit'
    have hrecord' : supply'.Records (fun _ => ()) fun _ _ => () := ⟨fun _ _ => rfl, fun _ _ => rfl⟩
    obtain ⟨_, _, hfind'⟩ :=
      find_of_plain hyield' hrecord' hst' hsilent f'.language depth below' hentries he hplain
    rw [f'.find_eq, hsplit', hfind']

end Finder

namespace Sample

/-- Two sources that cannot be had, and two more with entries. -/
def shadowing : List Source :=
  [entryFile, .url none "http://ns.test/shortcuts.yml", .inline none general, .inline none english]

/-- The entries hide that the file and the address below them cannot be had, and nobody looks for
these. Once the file is the most important source, the lookup fails. -/
theorem shadowed_unasked :
    let f : Finder := ⟨shadowing, "de"⟩
    let found := f.find Session.supply "exampledefault 1" none 1 newSession
    found.1 = .ok (some
      (shortcut "Example search" "https://example.com/?query=<query>").own) ∧
    found.2.accesses = [] ∧
    (f.find Session.supply "exampledefault 1" (some (shadowing ++ [entryFile])) 1 newSession).1 =
      .error (.namespaceUnavailable "a.yml" "No such file or directory (os error 2)") := by
  intro f found
  have halike : Provider.ReadableAlike newSession.world (· = "a.yml") := by
    rintro p q rfl rfl _ hread
    exact hread
  have hyield : Session.supply.Independent (shadowing ++ [entryFile])
      (Session.direct newSession.world newSession.providers).entries
      (Session.Settled newSession.world newSession.providers (· = "a.yml")) :=
    Session.independent halike (by simp [shadowing, entryFile, Source.Within])
  have hsettled : newSession.Settled newSession.world newSession.providers (· = "a.yml") :=
    Session.settled_start rfl
  have hplain := f.find_ends_at_verdict none
    (hyield.mono (List.subset_append_left shadowing [entryFile])) Session.records
    "exampledefault 1" 0 hsettled
  obtain ⟨hfound, hquiet, _⟩ := (hplain.2 [entryFile, .url none "http://ns.test/shortcuts.yml"]
    (.inline none general) [.inline none english] rfl (List.forall_mem_singleton.2 rfl)).2
    general (shortcut "Example search" "https://example.com/?query=<query>") rfl
    (by decide +kernel) rfl
  have hfile := f.find_ends_at_verdict (some (shadowing ++ [entryFile])) hyield Session.records
    "exampledefault 1" 0 hsettled
  refine ⟨hfound, congrArg Session.accesses hquiet, ?_⟩
  exact ((hfile.2 shadowing entryFile [] rfl (List.forall_mem_nil _)).1 _ rfl).1

end Sample

end Shortcuts
