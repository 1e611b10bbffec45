import Shortcuts.Lookup.Finder
import Shortcuts.Query
import Shortcuts.Template.Expansion

/-!
Resolving queries in an environment. Language and country of the query go before those of the
environment, and its namespaces come behind the others. A query without a shortcut is handed over
as a whole to the default keyword, if there is one.
-/
namespace Shortcuts

structure Environment where
  country : String
  language : String
  /-- By ascending importance. -/
  namespaces : List Source
  defaultKeyword : Option String

inductive Outcome where
  | success (url : String) (shortcut : Shortcut)
  | deprecated (created alternative : Option String)
  | notFound
  deriving DecidableEq

namespace Environment

variable {m : Type → Type} [Monad m] [MonadExcept Failure m]

def finder (e : Environment) : Finder := ⟨e.namespaces, e.language⟩

/-- The environment with what the prefixes of a query change. -/
def adjusted (e : Environment) (q : Query) : Environment :=
  { e with
    country := q.country.getD e.country
    language := q.language.getD e.language
    namespaces := Source.merge e.namespaces (q.namespaces.map .official) }

def setting (e : Environment) (clock : Template.Clock) : Template.Setting :=
  ⟨e.language, e.country, clock⟩

/-- Fills the url of a shortcut. -/
def open? (e : Environment) (clock : Template.Clock) (keyword : String) (arguments : List String)
    (s : Shortcut) : Except Failure Outcome :=
  match s.url with
  | none => .error (.missingUrl keyword)
  | some template => ((e.setting clock).expand template arguments).map (.success · s)

/-- The outcome of a shortcut found for a query. -/
def outcome (e : Environment) (clock : Template.Clock) (q : Query) (s : Shortcut) :
    Except Failure Outcome :=
  match s.deprecated with
  | none => e.open? clock q.keyword q.arguments s
  | some ⟨created, none⟩ => .ok (.deprecated created none)
  | some ⟨created, some alternative⟩ =>
    (Template.fillQuery alternative q.arguments).map fun query => .deprecated created (some query)

/-- Gives the whole text to the default keyword. -/
def fallBack (e : Environment) (supply : Supply m) (clock : Template.Clock) (text : String) :
    m Outcome :=
  match e.defaultKeyword with
  | none => pure .notFound
  | some keyword => do
    supply.note (.fallingBack keyword)
    match ← e.finder.findKeyword supply keyword 1 with
    | none => throw (.defaultKeywordNotFound keyword)
    | some s => MonadExcept.ofExcept (e.open? clock keyword [text] s)

def process (e : Environment) (supply : Supply m) (clock : Template.Clock) (text : String) :
    m Outcome := do
  let q := Query.parse text
  let adjusted := e.adjusted q
  supply.note (.processing q.keyword q.arguments.length adjusted.language adjusted.country)
  match ← adjusted.finder.findKeyword supply q.keyword q.arguments.length with
  | some s => MonadExcept.ofExcept (adjusted.outcome clock q s)
  | none => e.fallBack supply clock text

def search (e : Environment) (supply : Supply m) (query : String) : m (KeyMap Shortcut) :=
  e.finder.search supply query

end Environment

end Shortcuts
