import Shortcuts.Shortcut.Entry

/-!
Shortcuts and entries as JSON. A member that is `null` counts as absent. A record with members of
fixed names may also be written as an array of their values in order. Members of a shortcut that
have no meaning of their own are kept as they are.
-/
namespace Shortcuts

/-! ## Reading records -/

namespace Json

def text? : Json → Option String
  | .string s => some s
  | _ => none

def texts? : Json → Option (List String)
  | .array items => items.mapM text?
  | _ => none

/-- The members of an object, or those that an array of values stands for. -/
def record? (names : List String) : Json → Option (List (String × Json))
  | .members fields => some fields
  | .array items => if items.length ≤ names.length then some (names.zip items) else none
  | _ => none

/-- A member that may be absent, but is of the right kind if it is there. -/
def optional? {α : Type} (read : Json → Option α) (fields : List (String × Json))
    (name : String) : Option (Option α) :=
  match fields.lookup name with
  | none | some .null => some none
  | some value => (read value).map some

end Json

/-! ## Shortcuts -/

/-- The replacement query of a deprecation. -/
def Deprecation.replacement? (value : Json) : Option String := do
  let fields ← value.record? ["query"]
  (← fields.lookup "query").text?

def Deprecation.ofJson? (value : Json) : Option Deprecation := do
  let fields ← value.record? ["created", "alternative"]
  let created ← Json.optional? Json.text? fields "created"
  let alternative ← Json.optional? replacement? fields "alternative"
  some ⟨created, alternative⟩

def member (name : String) (encode : α → Json) (value : Option α) : List (String × Json) :=
  (value.map fun a => (name, encode a)).toList

def Deprecation.toJson (d : Deprecation) : Json :=
  .object (member "created" .string d.created ++
    member "alternative" (fun query => .object [("query", .string query)]) d.alternative)

namespace Shortcut

/-- The names of the members that are fields of a shortcut. -/
def fieldNames : List String := ["url", "title", "description", "tags", "deprecated"]

def ofMembers? (fields : List (String × Json)) : Option Shortcut := do
  let url ← Json.optional? Json.text? fields "url"
  let title ← Json.optional? Json.text? fields "title"
  let description ← Json.optional? Json.text? fields "description"
  let tags ← Json.optional? Json.texts? fields "tags"
  let deprecated ← Json.optional? Deprecation.ofJson? fields "deprecated"
  let extra := KeyMap.ofList (fields.filter fun f => !fieldNames.contains f.1)
  some ⟨url, title, description, tags, deprecated, extra⟩

def ofJson? : Json → Option Shortcut
  | .members fields => ofMembers? fields
  | _ => none

def toMembers (s : Shortcut) : List (String × Json) :=
  member "url" .string s.url ++ member "title" .string s.title ++
    member "description" .string s.description ++
    member "tags" (fun tags => .array (tags.map .string)) s.tags ++
    member "deprecated" Deprecation.toJson s.deprecated ++ s.extra.entries

def toJson (s : Shortcut) : Json := .object s.toMembers

end Shortcut

/-! ## Includes -/

namespace Include

def reference? (fields : List (String × Json)) : Option (String × Option String) := do
  let searchKey ← (← fields.lookup "key").text?
  let within ← Json.optional? Json.text? fields "namespace"
  some (searchKey, within)

mutual

def ofJson : Json → Include
  | .string searchKey => .key searchKey
  | .array items => .list (ofItems items)
  | .members fields =>
    match reference? fields with
    | some (searchKey, within) => .reference searchKey within
    | none => .unrecognized (.members fields)
  | value => .unrecognized value

def ofItems : List Json → List Include
  | [] => []
  | item :: rest => ofJson item :: ofItems rest

end

mutual

def toJson : Include → Json
  | .key searchKey => .string searchKey
  | .reference searchKey within =>
    .object (("key", .string searchKey) :: member "namespace" .string within)
  | .list alternatives => .array (toItems alternatives)
  | .unrecognized value => value

def toItems : List Include → List Json
  | [] => []
  | i :: rest => toJson i :: toItems rest

end

end Include

/-! ## Entries -/

namespace Definition

def ofMembers? (fields : List (String × Json)) : Option Definition := do
  let include? ← Json.optional? (fun value => some (Include.ofJson value)) fields "include"
  let shortcut ← Shortcut.ofMembers? (fields.filter fun f => f.1 ≠ "include")
  some ⟨include?, shortcut⟩

def toJson (d : Definition) : Json :=
  .object (member "include" Include.toJson d.include? ++ d.shortcut.toMembers)

end Definition

namespace Entry

def ofJson? : Json → Option Entry
  | .string template => some (.short template)
  | .members fields => (Definition.ofMembers? fields).map .full
  | _ => none

def toJson : Entry → Json
  | .short template => .string template
  | .full definition => definition.toJson

end Entry

namespace EntryMap

/-- Reads each entry on its own and leaves out those that are malformed. -/
def lenient (raw : Table Json) : EntryMap := raw.filterMap fun _ value => Entry.ofJson? value

/-- The keys of the malformed entries. -/
def malformedKeys (raw : Table Json) : List String :=
  (raw.entries.filter fun e => (Entry.ofJson? e.2).isNone).map Prod.fst

/-- Reads all entries, if none is malformed. -/
def strict? (raw : Table Json) : Option EntryMap := raw.mapAll? Entry.ofJson?

def toJson (entries : EntryMap) : Json :=
  .object (entries.entries.map fun e => (e.1, e.2.toJson))

end EntryMap

end Shortcuts
