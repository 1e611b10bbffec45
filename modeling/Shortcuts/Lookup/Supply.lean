import Shortcuts.Namespace.Provider

/-!
What lookups draw on: the entries of a source, and a log. A store of fixed entries supplies them
without any effect; a session asks its providers, of which the first that supports a source is in
charge of it, and keeps what they remember.
-/
namespace Shortcuts

structure Supply (m : Type → Type) where
  entries : Source → m (Option EntryMap)
  note : Event → m Unit

/-- Fixed entries for each source; without any a source has no data. -/
abbrev Store := Source → Option EntryMap

def Store.supply (store : Store) : Supply (Except Failure) where
  entries s := .ok (store s)
  note _ := .ok ()

/-! ## Sessions -/

/-- The newest event and access come first. -/
structure Session where
  world : World
  providers : List Provider
  events : List Event
  accesses : List Access

namespace Session

abbrev Run := ExceptT Failure (StateM Session)

/-- Asks the first provider that supports the source. -/
def askFirst (w : World) (s : Source) : List Provider → Option (Reply × List Provider)
  | [] => none
  | p :: rest =>
    if p.supports s then
      let reply := p.get w s
      some (reply, reply.provider :: rest)
    else (askFirst w s rest).map fun (reply, rest) => (reply, p :: rest)

def entries (s : Source) : Run (Option EntryMap) := fun session =>
  match askFirst session.world s session.providers with
  | none => (.error (.unsupportedNamespaceSource s.display), session)
  | some (reply, providers) =>
    (reply.result, { session with
      providers := providers
      events := reply.events.reverse ++ .fetching s.display :: session.events
      accesses := reply.accesses.reverse ++ session.accesses })

def note (e : Event) : Run Unit := fun session =>
  (.ok (), { session with events := e :: session.events })

def supply : Supply Run := ⟨entries, note⟩

def start (w : World) (providers : List Provider) : Session := ⟨w, providers, [], []⟩

end Session

end Shortcuts
