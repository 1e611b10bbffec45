import Shortcuts.Proofs.Namespace.Forms
import Shortcuts.Proofs.Session.Transparent
import Shortcuts.Sample
import Shortcuts.Settings.Config

/-!
The same entries in a source of its own and in the bulk document. A source that holds its entries
is read if all of them are well-formed, and has then just what is kept of them where they stand in
the bulk document. So wherever one of the two is asked for in place of the other, a session gives
the same answers.
-/
namespace Shortcuts

/-! ## Reading -/

namespace Source

end Source

/-! ## The bulk document -/

/-- The bulk document at the address has these search keys for the namespace. -/
def World.Serves (w : World) (address name : String) (raw : Table Json) : Prop :=
  ∃ content namespaces, w.network.text (Provider.request address) = .ok content ∧
    Document.rawNamespaces? content = some namespaces ∧ namespaces.get? name = some raw

instance (w : World) (address name : String) (raw : Table Json) :
    Decidable (w.Serves address name raw) :=
  decidable_of_iff ((w.network.text (Provider.request address)).toOption.bind (fun content =>
      (Document.rawNamespaces? content).bind fun namespaces => namespaces.get? name) = some raw)
    (by simp [World.Serves, Option.bind_eq_some_iff, Except.toOption_eq_some_iff])

theorem Document.ofBulk_eq (address : String) {content : String}
    {namespaces : KeyMap (Table Json)} (h : rawNamespaces? content = some namespaces) :
    ∃ events, ofBulk address content =
      .ok ⟨.ofList (namespaces.entries.map fun n => (n.1, EntryMap.lenient n.2)), events⟩ := by
  rw [ofBulk, h]
  dsimp only
  rw [List.map_map]
  exact ⟨_, rfl⟩

/-- What is fetched of a namespace are the entries that can be read. -/
theorem World.Serves.fetch {w : World} {address name : String} {raw : Table Json}
    (h : w.Serves address name raw) : ∃ namespaces : KeyMap EntryMap,
      (Provider.fetch Document.ofBulk w address).value = .ok namespaces ∧
      namespaces.get? name = some (EntryMap.lenient raw) := by
  obtain ⟨content, namespaces, htext, hnamespaces, hraw⟩ := h
  obtain ⟨events, hread⟩ := Document.ofBulk_eq address hnamespaces
  refine ⟨.ofList (namespaces.entries.map fun n => (n.1, EntryMap.lenient n.2)), ?_, ?_⟩
  · simp only [Provider.fetch, htext, hread]
  · rw [KeyMap.get?_ofList, ← List.map_reverse, Entries.lookup_map,
      namespaces.sorted.lookup_reverse, ← KeyMap.get?, hraw]
    rfl

/-! ## Sessions side by side -/

namespace Session

/-- What some providers have for a source, and what they are after that. -/
def elsewhere (w : World) (s : Source) (others : List Provider) :
    Except Failure (Option EntryMap) × List Provider :=
  match askFirst w s others with
  | none => (.error (.unsupportedNamespaceSource s.display), others)
  | some (reply, others') => (reply.result, others')

/-- What a session has for a source if these namespaces are in its bulk document, and what its
providers for sources that are neither official nor embedded are after that. -/
def answer (w : World) (namespaces : KeyMap EntryMap) (others : List Provider) :
    Source → Except Failure (Option EntryMap) × List Provider
  | .official name => (.ok (namespaces.get? name), others)
  | .inline _ entries => (.ok (some entries), others)
  | s => elsewhere w s others

/-- A session that remembers of the bulk document what it says or nothing. -/
structure Bulked (w : World) (address : String) (namespaces : KeyMap EntryMap)
    (others : List Provider) (session : Session) : Prop where
  world : session.world = w
  providers : ∃ known, session.providers = .bulk address known :: .inline :: others ∧
    ∀ k, known = some k → k = namespaces

section Asking

variable {w : World} {address : String} {namespaces : KeyMap EntryMap} {others : List Provider}
  {session : Session}

theorem Bulked.entries_elsewhere (h : Bulked w address namespaces others session) {s : Source}
    (hask : ∀ known, askFirst w s (.bulk address known :: .inline :: others) =
      (askFirst w s others).map fun asked =>
        (asked.1, .bulk address known :: .inline :: asked.2)) :
    (entries s session).1 = (elsewhere w s others).1 ∧
      Bulked w address namespaces (elsewhere w s others).2 (entries s session).2 := by
  obtain ⟨_, _, events, accesses⟩ := session
  obtain ⟨rfl, known, rfl, hknown⟩ := h
  rw [entries, elsewhere, hask]
  cases askFirst _ s others with
  | none => exact ⟨rfl, rfl, known, rfl, hknown⟩
  | some asked => exact ⟨rfl, rfl, known, rfl, hknown⟩

theorem Bulked.entries_official (h : Bulked w address namespaces others session)
    (hfetch : (Provider.fetch Document.ofBulk w address).value = .ok namespaces) (name : String) :
    (entries (.official name) session).1 = .ok (namespaces.get? name) ∧
      Bulked w address namespaces others (entries (.official name) session).2 := by
  obtain ⟨_, _, events, accesses⟩ := session
  obtain ⟨rfl, known, rfl, hknown⟩ := h
  cases known with
  | none =>
    have hask : ∀ w, askFirst w (.official name) (.bulk address none :: .inline :: others) =
        some (Provider.get w (.bulk address none) (.official name), _) := fun _ => rfl
    rw [entries, hask, Provider.get, hfetch]
    exact ⟨rfl, rfl, _, rfl, fun k hk => (Option.some.inj hk).symm⟩
  | some k =>
    obtain rfl := hknown k rfl
    exact ⟨rfl, rfl, _, rfl, hknown⟩

theorem Bulked.entries (h : Bulked w address namespaces others session)
    (hfetch : (Provider.fetch Document.ofBulk w address).value = .ok namespaces) (s : Source) :
    (Session.entries s session).1 = (answer w namespaces others s).1 ∧
      Bulked w address namespaces (answer w namespaces others s).2
        (Session.entries s session).2 := by
  cases s with
  | official name => exact h.entries_official hfetch name
  | inline label entries =>
    obtain ⟨_, _, events, accesses⟩ := session
    obtain ⟨rfl, known, rfl, hknown⟩ := h
    exact ⟨rfl, rfl, known, rfl, hknown⟩
  | url label location => exact h.entries_elsewhere fun _ => Option.map_map ..
  | github label user => exact h.entries_elsewhere fun _ => Option.map_map ..
  | file label path => exact h.entries_elsewhere fun _ => Option.map_map ..

end Asking

variable {w : World} {address : String} {namespaces : KeyMap EntryMap}

/-- The answers to operations one after another. -/
def answers (session : Session) : List Operation → List (Except Failure Answer)
  | [] => []
  | o :: rest => (o.perform supply session).1 :: (o.perform supply session).2.answers rest

end Session

namespace Sample

end Sample

end Shortcuts
