import Shortcuts.Files
import Shortcuts.Namespace.Document
import Shortcuts.Namespace.Source
import Shortcuts.Web.Network

/-!
Providers fetch the entries of the sources they support. Each remembers what it has read for
good: the bulk document as a whole, other documents by address or path. A failure is not
remembered.
-/
namespace Shortcuts

structure World where
  files : Files
  network : Web.Network

/-- A look at the world outside. -/
inductive Access where
  | request (r : Web.Request)
  | read (path : String)
  deriving DecidableEq, Repr

inductive Provider where
  /-- Official namespaces from memory. -/
  | fixed (namespaces : KeyMap EntryMap)
  /-- Official namespaces from one document. -/
  | bulk (address : String) (known : Option (KeyMap EntryMap))
  | inline
  | url (known : List (String × EntryMap))
  /-- The namespaces of users below a common address. -/
  | github (base : String) (known : List (String × EntryMap))
  | file (known : List (List (List Char) × EntryMap))

structure Reply where
  result : Except Failure (Option EntryMap)
  /-- The provider with what it remembers from now on. -/
  provider : Provider
  events : List Event
  accesses : List Access

def githubPath : String := "trovu-data-user/master/shortcuts.yml"

/-- The address of a user's document. Slashes at the end of the base do not count. -/
def githubAddress (base user : String) : String :=
  let trimmed := (base.toList.reverse.dropWhile (· = '/')).reverse
  String.ofList trimmed ++ "/" ++ user ++ "/" ++ githubPath

namespace Provider

def supports : Provider → Source → Bool
  | .fixed _, .official _ => true
  | .bulk .., .official _ => true
  | .inline, .inline .. => true
  | .url _, .url .. => true
  | .github .., .github .. => true
  | .file _, .file .. => true
  | _, _ => false

def unsupported (p : Provider) (s : Source) : Reply :=
  ⟨.error (.unsupportedNamespaceSource s.display), p, [], []⟩

/-- What a look at the world brought, before it is remembered. -/
structure Fetched (α : Type) where
  value : Except Failure α
  events : List Event
  accesses : List Access

/-- Seconds that the data of a namespace may take. -/
def timeout : Nat := 30

def request (address : String) : Web.Request := ⟨address, Web.userAgent, timeout⟩

/-- Requests a document and reads it. -/
def fetch {α : Type} (read : String → String → Except Failure (Document.Reading α)) (w : World)
    (address : String) : Fetched α :=
  let accesses := [.request (request address)]
  match w.network.text (request address) with
  | .error fault =>
    ⟨.error (.namespaceUnavailable address fault.message), [.loading address], accesses⟩
  | .ok content =>
    match read address content with
    | .error f => ⟨.error f, [.loading address], accesses⟩
    | .ok r => ⟨.ok r.value, .loading address :: r.events, accesses⟩

def readFile (w : World) (path : String) : Fetched EntryMap :=
  match w.files.readText path with
  | .error fault =>
    ⟨.error (.namespaceUnavailable path fault.message), [.reading path], [.read path]⟩
  | .ok content =>
    match Document.ofNamespace path content with
    | .error f => ⟨.error f, [.reading path], [.read path]⟩
    | .ok r => ⟨.ok r.value, .reading path :: r.events, [.read path]⟩

/-- The entries known under a key, or else fetched and remembered under it. -/
def remembered {κ : Type} [BEq κ] (known : List (κ × EntryMap)) (key : κ)
    (fetched : Fetched EntryMap) (remember : List (κ × EntryMap) → Provider) : Reply :=
  match known.lookup key with
  | some entries => ⟨.ok (some entries), remember known, [], []⟩
  | none =>
    match fetched.value with
    | .ok entries =>
      ⟨.ok (some entries), remember ((key, entries) :: known), fetched.events,
        fetched.accesses⟩
    | .error f => ⟨.error f, remember known, fetched.events, fetched.accesses⟩

def get (w : World) (p : Provider) (s : Source) : Reply :=
  match p, s with
  | .fixed namespaces, .official name => ⟨.ok (namespaces.get? name), p, [], []⟩
  | .bulk _ (some namespaces), .official name => ⟨.ok (namespaces.get? name), p, [], []⟩
  | .bulk address none, .official name =>
    let fetched := fetch Document.ofBulk w address
    match fetched.value with
    | .ok namespaces =>
      ⟨.ok (namespaces.get? name), .bulk address (some namespaces), fetched.events,
        fetched.accesses⟩
    | .error f => ⟨.error f, p, fetched.events, fetched.accesses⟩
  | .inline, .inline _ entries => ⟨.ok (some entries), p, [], []⟩
  | .url known, .url _ address =>
    remembered known address (fetch Document.ofNamespace w address) .url
  | .github base known, .github _ user =>
    let address := githubAddress base user
    remembered known address (fetch Document.ofNamespace w address) (.github base)
  | .file known, .file _ path => remembered known (Path.parts path) (readFile w path) .file
  | p, s => p.unsupported s

/-- The providers for every form of source. -/
def standard (dataAddress githubBase : String) : List Provider :=
  [.bulk dataAddress none, .inline, .url [], .github githubBase [], .file []]

end Provider

end Shortcuts
