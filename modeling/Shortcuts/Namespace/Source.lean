import Shortcuts.Path
import Shortcuts.Shortcut.Codec

/-!
Where the entries of a namespace come from. A source is written as a name, which stands for an
official namespace, or as a record with at most one location.
-/
namespace Shortcuts

inductive Source where
  | official (name : String)
  | url (name : Option String) (address : String)
  | github (name : Option String) (user : String)
  | file (name : Option String) (path : String)
  | inline (name : Option String) (entries : EntryMap)
  deriving DecidableEq, Inhabited

namespace Source

def display : Source → String
  | official name => name
  | url name address => name.getD address
  | github name user => name.getD ("github:" ++ user)
  | file name path => name.getD path
  | inline name _ => name.getD "<inline>"

/-- Whether two sources are one: paths are compared by their parts, embedded entries as maps. -/
def same : Source → Source → Bool
  | official a, official b => a = b
  | url m a, url n b => m = n && a = b
  | github m a, github n b => m = n && a = b
  | file m a, file n b => m = n && Path.same a b
  | inline m a, inline n b => m = n && a.same b
  | _, _ => false

/-- Appends those sources that are not in the list yet. -/
def addNew : (seen more : List Source) → List Source
  | seen, [] => seen
  | seen, s :: rest => if seen.any s.same then addNew seen rest else addNew (seen ++ [s]) rest

/-- The first list followed by the second, each source where it occurs first. -/
def merge (base additional : List Source) : List Source := addNew [] (base ++ additional)

/-! ## Reading -/

inductive Malformed where
  /-- Neither a name nor a record of the right form. -/
  | shape
  | noLocation
  | severalLocations (name : Option String)
  deriving DecidableEq, Repr

def Malformed.message : Malformed → String
  | shape => "data did not match any variant of untagged enum NamespaceSourceDefinition"
  | noLocation => "namespace table needs one of url, github, file, shortcuts"
  | severalLocations name =>
    "namespace '" ++ name.getD "" ++ "' must set only one of url, github, file, shortcuts"

def memberNames : List String := ["name", "url", "github", "file", "shortcuts"]

def entries? : Json → Option EntryMap
  | .members fields => EntryMap.strict? (Table.ofList fields)
  | _ => none

/-- The record form of a source before its locations are counted. -/
structure Record where
  name : Option String
  url : Option String
  github : Option String
  file : Option String
  shortcuts : Option EntryMap

def Record.ofJson? (value : Json) : Option Record := do
  let fields ← value.record? memberNames
  if fields.all fun f => memberNames.contains f.1 then
    let name ← Json.optional? Json.text? fields "name"
    let url ← Json.optional? Json.text? fields "url"
    let github ← Json.optional? Json.text? fields "github"
    let file ← Json.optional? Json.text? fields "file"
    let shortcuts ← Json.optional? entries? fields "shortcuts"
    some ⟨name, url, github, file, shortcuts⟩
  else none

def Record.source : Record → Except Malformed Source
  | ⟨name, some address, none, none, none⟩ => .ok (.url name address)
  | ⟨name, none, some user, none, none⟩ => .ok (.github name user)
  | ⟨name, none, none, some path, none⟩ => .ok (.file name path)
  | ⟨name, none, none, none, some entries⟩ => .ok (.inline name entries)
  | ⟨some name, none, none, none, none⟩ => .ok (.official name)
  | ⟨none, none, none, none, none⟩ => .error .noLocation
  | ⟨name, _, _, _, _⟩ => .error (.severalLocations name)

def ofJson (value : Json) : Except Malformed Source :=
  match value with
  | .string name => .ok (.official name)
  | value =>
    match Record.ofJson? value with
    | some r => r.source
    | none => .error .shape

end Source

end Shortcuts
