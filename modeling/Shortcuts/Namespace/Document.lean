import Shortcuts.Event
import Shortcuts.Failure
import Shortcuts.Json.Reader
import Shortcuts.Shortcut.Codec
import Shortcuts.Text.Blank
import Shortcuts.Yaml.Value

/-!
Documents that hold the entries of namespaces. The document of one namespace is a YAML mapping of
search keys; the bulk document is a JSON object whose member `shortcuts` holds the search keys of
every official namespace. An entry that is malformed is left out.
-/
namespace Shortcuts.Document

/-- The entries of a document with a note on each one left out. -/
structure Reading (α : Type) where
  value : α
  events : List Event

def entries (source : String) (raw : Table Json) : Reading EntryMap where
  value := EntryMap.lenient raw
  events := (EntryMap.malformedKeys raw).map (.malformedEntry · source)

/-- A blank document is an empty namespace. -/
def ofNamespace (source content : String) : Except Failure (Reading EntryMap) :=
  if (Text.trim content.toList).isEmpty then .ok ⟨.empty, []⟩
  else match Yaml.record? content.toList with
    | some fields => .ok (entries source (Table.ofList fields))
    | none => .error (.malformedNamespaceData source "not a mapping of search keys")

/-! ## The bulk document -/

/-- The written table of namespaces: the only member with its name, or else the only item. Other
members need not mean anything. -/
def bulkTable? : Json.Written → Option Json.Written
  | .array [table] => some table
  | document => do
    match (← document.members?).filter (·.1 = "shortcuts") with
    | [(_, table)] => some table
    | _ => none

/-- How deep an entry may be nested: it stands in three objects or arrays of the document. -/
def entryNesting : Nat := Json.Written.nestingLimit - 3

/-- The search keys of a namespace; all that is written for them has to be a value, also what is
written over later. -/
def rawNamespace? (written : Json.Written) : Option (Table Json) := do
  let fields ← written.members?
  let values ← fields.mapM fun f => (f.2.value? entryNesting).map (f.1, ·)
  some (.ofList values)

/-- The namespaces of a bulk document. -/
def rawNamespaces? (content : String) : Option (KeyMap (Table Json)) := do
  let table ← bulkTable? (← Json.read? content)
  let namespaces ← (← table.members?).mapM fun f => (rawNamespace? f.2).map (f.1, ·)
  some (.ofList namespaces)

def ofBulk (address content : String) : Except Failure (Reading (KeyMap EntryMap)) :=
  match rawNamespaces? content with
  | some raw =>
    let read := raw.entries.map fun n => (n.1, entries n.1 n.2)
    .ok ⟨.ofList (read.map fun r => (r.1, r.2.value)),
      .loaded raw.entries.length address :: read.flatMap (·.2.events)⟩
  | none => .error (.malformedNamespaceData address "not a table of namespaces")

end Shortcuts.Document
