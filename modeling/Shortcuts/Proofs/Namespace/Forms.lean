import Shortcuts.Namespace.Source
import Shortcuts.Proofs.Entry.Lenient

/-!
The forms of a source. A value stands for a source if it is a name, or a record whose members are
known, have their types and give one location at most. Which source it is then lies in the only
location, and in the name where there is none.
-/
namespace Shortcuts

/-! ## Records -/

namespace Json

theorem lookup_zip {α : Type} {names : List String} {name : String} (h : name ∈ names)
    (items : List α) : (names.zip items).lookup name = items[names.idxOf name]? := by
  induction names generalizing items with
  | nil => cases h
  | cons first rest ih =>
    cases items with
    | nil => rfl
    | cons item items =>
      rw [List.zip_cons_cons, Sorted.lookup_cons]
      by_cases hname : name = first
      · rw [if_pos hname, hname, List.idxOf_cons_self]
        rfl
      · have hrest : name ∈ rest := (List.mem_cons.1 h).resolve_left hname
        have hb : (first == name) = false := by simpa using Ne.symm hname
        rw [if_neg hname, ih hrest, List.idxOf_cons, hb, cond_false, List.getElem?_cons_succ]

theorem optional?_eq_some_iff {α : Type} {read : Json → Option α} {fields : List (String × Json)}
    {name : String} {found : Option α} :
    optional? read fields name = some found ↔
      ((fields.lookup name).filter (· ≠ .null)).map read = found.map some := by
  rw [optional?]
  split
  · rename_i hnone
    rw [hnone]
    cases found <;> simp
  · rename_i hnull
    rw [hnull]
    cases found <;> simp
  · rename_i value hnull hvalue
    rw [hvalue, Option.filter_some_pos (by simpa using hnull)]
    cases found <;> simp

theorem text?_eq_some_iff {value : Json} {text : String} :
    text? value = some text ↔ value = .string text := by
  cases value <;> simp [text?]

end Json

namespace Source

/-- The value that is given for a member, by its name or in an array by its place. A null is
none. -/
def given (value : Json) (name : String) : Option Json :=
  let written := match value with
    | .members fields => fields.lookup name
    | .array items => items[memberNames.idxOf name]?
    | _ => none
  written.filter (· ≠ .null)

/-- Members with known names, or as many values as there are such names at most. -/
def IsRecord : Json → Prop
  | .members fields => ∀ f ∈ fields, f.1 ∈ memberNames
  | .array items => items.length ≤ memberNames.length
  | _ => False

theorem isRecord_iff (value : Json) :
    IsRecord value ↔ ∃ fields, value.record? memberNames = some fields ∧
      ∀ f ∈ fields, f.1 ∈ memberNames := by
  cases value with
  | members fields => simp [IsRecord, Json.record?]
  | array items =>
    rw [IsRecord, Json.record?]
    by_cases hlength : items.length ≤ memberNames.length
    · refine iff_of_true hlength ⟨_, if_pos hlength, fun f hf => ?_⟩
      exact (List.of_mem_zip hf).1
    · simp [hlength]
  | null | bool _ | number _ | string _ => simp [IsRecord, Json.record?]

theorem filter_lookup_eq_given {value : Json} {fields : List (String × Json)} {name : String}
    (h : value.record? memberNames = some fields) (hname : name ∈ memberNames) :
    (fields.lookup name).filter (· ≠ .null) = given value name := by
  cases value with
  | members written =>
    obtain rfl := Option.some.inj h
    rfl
  | array items =>
    rw [Json.record?] at h
    split at h
    · obtain rfl := Option.some.inj h
      rw [Json.lookup_zip hname]
      rfl
    · cases h
  | null | bool _ | number _ | string _ => cases h

theorem entries?_eq_some_iff {value : Json} {entries : EntryMap} :
    entries? value = some entries ↔ ∃ fields, value = .members fields ∧
      EntryMap.WellFormed (.ofList fields) ∧ entries = EntryMap.lenient (.ofList fields) := by
  cases value with
  | members fields => simp [entries?, EntryMap.strict?_eq_some_iff]
  | null | bool _ | number _ | string _ | array _ => simp [entries?]

/-- What a record holds is what the value gives for its members. -/
structure Record.Holds (r : Record) (value : Json) : Prop where
  name : given value "name" = r.name.map .string
  url : given value "url" = r.url.map .string
  github : given value "github" = r.github.map .string
  file : given value "file" = r.file.map .string
  shortcuts : (given value "shortcuts").map entries? = r.shortcuts.map some

theorem map_text?_iff {written : Option Json} {text : Option String} :
    written.map Json.text? = text.map some ↔ written = text.map .string := by
  cases written <;> cases text <;> simp [Json.text?_eq_some_iff]

theorem Record.ofJson?_eq_some_iff {value : Json} {r : Record} :
    Record.ofJson? value = some r ↔ IsRecord value ∧ r.Holds value := by
  obtain ⟨name, url, github, file, shortcuts⟩ := r
  rw [isRecord_iff]
  cases hfields : value.record? memberNames with
  | none => simp [Record.ofJson?, hfields]
  | some fields =>
    have hread : ∀ {α : Type} (read : Json → Option α) (found : Option α), ∀ name ∈ memberNames,
        Json.optional? read fields name = some found ↔
          (given value name).map read = found.map some := by
      intro α read found name hname
      rw [Json.optional?_eq_some_iff, filter_lookup_eq_given hfields hname]
    simp only [Record.ofJson?, hfields, Option.bind_eq_bind, Option.bind_some,
      Option.ite_none_right_eq_some, Option.bind_eq_some_iff, Option.some.injEq, mk.injEq,
      List.all_eq_true, List.contains_iff_mem, exists_eq_left']
    have htext : ∀ name ∈ memberNames, ∀ text,
        Json.optional? Json.text? fields name = some text ↔
          given value name = text.map .string := by
      intro name hname text
      rw [hread _ _ name hname, map_text?_iff]
    refine and_congr_right fun _ => ⟨?_, fun h => ?_⟩
    · rintro ⟨_, hname, _, hurl, _, hgithub, _, hfile, _, hshortcuts, rfl, rfl, rfl, rfl, rfl⟩
      exact ⟨(htext _ (by decide) _).1 hname, (htext _ (by decide) _).1 hurl,
        (htext _ (by decide) _).1 hgithub, (htext _ (by decide) _).1 hfile,
        (hread _ _ _ (by decide)).1 hshortcuts⟩
    · exact ⟨_, (htext _ (by decide) _).2 h.name, _, (htext _ (by decide) _).2 h.url,
        _, (htext _ (by decide) _).2 h.github, _, (htext _ (by decide) _).2 h.file,
        _, (hread _ _ _ (by decide)).2 h.shortcuts, rfl, rfl, rfl, rfl, rfl⟩

/-! ## The choice of a location -/

/-- The only location decides, or the name if there is none. -/
inductive Record.Chooses : Record → Source → Prop
  | official (name : String) : Chooses ⟨some name, none, none, none, none⟩ (.official name)
  | url (name : Option String) (address : String) :
    Chooses ⟨name, some address, none, none, none⟩ (.url name address)
  | github (name : Option String) (user : String) :
    Chooses ⟨name, none, some user, none, none⟩ (.github name user)
  | file (name : Option String) (path : String) :
    Chooses ⟨name, none, none, some path, none⟩ (.file name path)
  | inline (name : Option String) (entries : EntryMap) :
    Chooses ⟨name, none, none, none, some entries⟩ (.inline name entries)

theorem Record.source_eq_ok_iff {r : Record} {s : Source} : r.source = .ok s ↔ r.Chooses s := by
  constructor
  · intro h
    unfold source at h
    split at h
    · obtain rfl := Except.ok.inj h
      exact .url _ _
    · obtain rfl := Except.ok.inj h
      exact .github _ _
    · obtain rfl := Except.ok.inj h
      exact .file _ _
    · obtain rfl := Except.ok.inj h
      exact .inline _ _
    · obtain rfl := Except.ok.inj h
      exact .official _
    · cases h
    · cases h
  · intro h
    cases h with
    | official name => rfl
    | url name address => rfl
    | github name user => rfl
    | file name path => rfl
    | inline name entries => rfl

theorem ofJson_record {value : Json} (h : ∀ name, value ≠ .string name) :
    ofJson value = (Record.ofJson? value).elim (.error .shape) Record.source := by
  rw [ofJson]
  · cases Record.ofJson? value <;> rfl
  · exact h

theorem ofJson_eq_ok_iff {value : Json} {s : Source} :
    ofJson value = .ok s ↔ (∃ name, value = .string name ∧ s = .official name) ∨
      ∃ r, Record.ofJson? value = some r ∧ r.Chooses s := by
  by_cases hstring : ∃ name, value = .string name
  · obtain ⟨name, rfl⟩ := hstring
    have hname : ofJson (.string name) = .ok (.official name) := rfl
    have hrecord : Record.ofJson? (.string name) = none := rfl
    simp [hname, hrecord, eq_comm]
  · have hnot : ¬ ∃ name, value = .string name ∧ s = .official name := by
      rintro ⟨name, hname, _⟩
      exact hstring ⟨name, hname⟩
    rw [ofJson_record fun name hname => hstring ⟨name, hname⟩, or_iff_right hnot]
    cases Record.ofJson? value with
    | none => simp
    | some r => simp [Record.source_eq_ok_iff]

def locationNames : List String := ["url", "github", "file", "shortcuts"]

/-- Entries that can all be read for `shortcuts`, and a text for each other member. -/
def HasType (name : String) (value : Json) : Prop :=
  if name = "shortcuts" then
    ∃ fields, value = .members fields ∧ EntryMap.WellFormed (.ofList fields)
  else ∃ text, value = .string text

theorem hasType_text_iff {name : String} (h : name ≠ "shortcuts") {value : Json} :
    HasType name value ↔ ∃ text, value = .string text := by
  rw [HasType, if_neg h]

theorem hasType_shortcuts_iff {value : Json} :
    HasType "shortcuts" value ↔
      ∃ fields, value = .members fields ∧ EntryMap.WellFormed (.ofList fields) := by
  rw [HasType, if_pos rfl]

/-- A record that leaves no doubt about its source. -/
structure Definite (value : Json) : Prop where
  record : IsRecord value
  typed : ∀ name ∈ memberNames, ∀ member, given value name = some member → HasType name member
  /-- No two members say where the entries come from. -/
  single : ∀ a ∈ locationNames, ∀ b ∈ locationNames,
    given value a ≠ none → given value b ≠ none → a = b
  named : (∀ name ∈ locationNames, given value name = none) → given value "name" ≠ none

/-- The source that a value stands for. -/
inductive StandsFor (value : Json) : Source → Prop
  | text {name : String} (htext : value = .string name) : StandsFor value (.official name)
  | official {name : String} (hname : given value "name" = some (.string name))
    (hlocation : ∀ location ∈ locationNames, given value location = none) :
    StandsFor value (.official name)
  | url {name : Option String} {address : String} (hname : given value "name" = name.map .string)
    (hurl : given value "url" = some (.string address)) : StandsFor value (.url name address)
  | github {name : Option String} {user : String} (hname : given value "name" = name.map .string)
    (hgithub : given value "github" = some (.string user)) : StandsFor value (.github name user)
  | file {name : Option String} {path : String} (hname : given value "name" = name.map .string)
    (hfile : given value "file" = some (.string path)) : StandsFor value (.file name path)
  | inline {name : Option String} {fields : List (String × Json)}
    (hname : given value "name" = name.map .string)
    (hshortcuts : given value "shortcuts" = some (.members fields)) :
    StandsFor value (.inline name (EntryMap.lenient (.ofList fields)))

section Choosing

variable {value : Json} {s : Source} {r : Record}

theorem Record.Holds.typed (h : r.Holds value) {name : String} (hname : name ∈ memberNames)
    {member : Json} (hmember : given value name = some member) : HasType name member := by
  have htext : ∀ {text : Option String}, name ≠ "shortcuts" →
      given value name = text.map .string → HasType name member := by
    intro text hne hgiven
    obtain ⟨written, _, rfl⟩ := Option.map_eq_some_iff.1 (hgiven.symm.trans hmember)
    exact (hasType_text_iff hne).2 ⟨written, rfl⟩
  simp only [memberNames, List.mem_cons, List.not_mem_nil, or_false] at hname
  rcases hname with rfl | rfl | rfl | rfl | rfl
  · exact htext (by decide) h.name
  · exact htext (by decide) h.url
  · exact htext (by decide) h.github
  · exact htext (by decide) h.file
  · have hread := h.shortcuts
    rw [hmember, Option.map_some] at hread
    obtain ⟨entries, _, hentries⟩ := Option.map_eq_some_iff.1 hread.symm
    obtain ⟨fields, rfl, hall, _⟩ := entries?_eq_some_iff.1 hentries.symm
    exact hasType_shortcuts_iff.2 ⟨fields, rfl, hall⟩

section Typed

variable (hrecord : IsRecord value) (htyped : ∀ name ∈ memberNames, ∀ member,
  given value name = some member → HasType name member)
include hrecord htyped

theorem definite_of_location {location : String} {member : Json}
    (hlocation : location ∈ locationNames) (hgiven : given value location = some member)
    (honly : ∀ a ∈ locationNames, a ≠ location → given value a = none) : Definite value := by
  refine ⟨hrecord, htyped, fun a ha b hb hgivena hgivenb => ?_, fun hnone => ?_⟩
  · have hla : a = location := Decidable.byContradiction fun hne => hgivena (honly a ha hne)
    have hlb : b = location := Decidable.byContradiction fun hne => hgivenb (honly b hb hne)
    rw [hla, hlb]
  · cases hgiven.symm.trans (hnone location hlocation)

theorem definite_of_name {member : Json} (hname : given value "name" = some member)
    (hnone : ∀ a ∈ locationNames, given value a = none) : Definite value := by
  refine ⟨hrecord, htyped, fun a ha _ _ hgiven => absurd (hnone a ha) hgiven, fun _ hname' => ?_⟩
  cases hname.symm.trans hname'

end Typed

theorem Record.Chooses.definite (h : r.Chooses s) (hrecord : IsRecord value)
    (hholds : r.Holds value) : Definite value ∧ StandsFor value s := by
  have htyped : ∀ name ∈ memberNames, ∀ member, given value name = some member →
      HasType name member := fun name hname member => hholds.typed hname
  obtain ⟨hname, hurl, hgithub, hfile, hshortcuts⟩ := hholds
  cases h with
  | official name =>
    have hnone : ∀ a ∈ locationNames, given value a = none := by simp_all [locationNames]
    exact ⟨definite_of_name hrecord htyped hname hnone, .official hname hnone⟩
  | url name address =>
    have honly : ∀ a ∈ locationNames, a ≠ "url" → given value a = none := by
      simp_all [locationNames]
    exact ⟨definite_of_location hrecord htyped (by decide) hurl honly, .url hname hurl⟩
  | github name user =>
    have honly : ∀ a ∈ locationNames, a ≠ "github" → given value a = none := by
      simp_all [locationNames]
    exact ⟨definite_of_location hrecord htyped (by decide) hgithub honly, .github hname hgithub⟩
  | file name path =>
    have honly : ∀ a ∈ locationNames, a ≠ "file" → given value a = none := by
      simp_all [locationNames]
    exact ⟨definite_of_location hrecord htyped (by decide) hfile honly, .file hname hfile⟩
  | inline name entries =>
    have honly : ∀ a ∈ locationNames, a ≠ "shortcuts" → given value a = none := by
      simp_all [locationNames]
    obtain ⟨member, hgiven, hread⟩ := Option.map_eq_some_iff.1 hshortcuts
    obtain ⟨fields, rfl, _, rfl⟩ := entries?_eq_some_iff.1 hread
    exact ⟨definite_of_location hrecord htyped (by decide) hgiven honly, .inline hname hgiven⟩

theorem Definite.text (h : Definite value) {name : String} (hname : name ∈ memberNames)
    (hne : name ≠ "shortcuts") : ∃ text : Option String, given value name = text.map .string := by
  cases hgiven : given value name with
  | none => exact ⟨none, rfl⟩
  | some member =>
    obtain ⟨text, rfl⟩ := (hasType_text_iff hne).1 (h.typed name hname member hgiven)
    exact ⟨some text, rfl⟩

theorem Definite.exists_standsFor (h : Definite value) : ∃ s, StandsFor value s := by
  obtain ⟨name, hname⟩ : ∃ name : Option String, given value "name" = name.map .string :=
    h.text (by decide) (by decide)
  obtain ⟨url, hurl⟩ : ∃ url : Option String, given value "url" = url.map .string :=
    h.text (by decide) (by decide)
  obtain ⟨github, hgithub⟩ : ∃ github : Option String, given value "github" = github.map .string :=
    h.text (by decide) (by decide)
  obtain ⟨file, hfile⟩ : ∃ file : Option String, given value "file" = file.map .string :=
    h.text (by decide) (by decide)
  match url, github, file, hshortcuts : given value "shortcuts" with
  | some address, _, _, _ => exact ⟨_, .url hname hurl⟩
  | none, some user, _, _ => exact ⟨_, .github hname hgithub⟩
  | none, none, some path, _ => exact ⟨_, .file hname hfile⟩
  | none, none, none, some member =>
    obtain ⟨fields, rfl, _⟩ := hasType_shortcuts_iff.1 (h.typed _ (by decide) member hshortcuts)
    exact ⟨_, .inline hname hshortcuts⟩
  | none, none, none, none =>
    have hnone : ∀ a ∈ locationNames, given value a = none := by simp_all [locationNames]
    cases name with
    | none => exact absurd hname (h.named hnone)
    | some name => exact ⟨_, .official hname hnone⟩

theorem Definite.only (h : Definite value) {location : String} {member : Json}
    (hlocation : location ∈ locationNames) (hgiven : given value location = some member) :
    ∀ a ∈ locationNames, a ≠ location → given value a = none := by
  intro a ha hne
  refine Decidable.byContradiction fun hsome => hne (h.single a ha location hlocation hsome ?_)
  rw [hgiven]
  exact nofun

/-- A definite record is read as one that its source can be chosen from. -/
theorem StandsFor.exists_record (h : StandsFor value s) (hdefinite : Definite value) :
    ∃ r : Record, r.Holds value ∧ r.Chooses s := by
  cases h with
  | text htext =>
    have hrecord := hdefinite.record
    rw [htext] at hrecord
    cases hrecord
  | @official name hname hnone =>
    exact ⟨⟨some name, none, none, none, none⟩,
      ⟨hname, hnone _ (by decide), hnone _ (by decide), hnone _ (by decide),
        Option.map_eq_none_iff.2 (hnone _ (by decide))⟩, .official name⟩
  | @url name address hname hurl =>
    have hnone := hdefinite.only (by decide) hurl
    exact ⟨⟨name, some address, none, none, none⟩,
      ⟨hname, hurl, hnone _ (by decide) (by decide), hnone _ (by decide) (by decide),
        Option.map_eq_none_iff.2 (hnone _ (by decide) (by decide))⟩, .url name address⟩
  | @github name user hname hgithub =>
    have hnone := hdefinite.only (by decide) hgithub
    exact ⟨⟨name, none, some user, none, none⟩,
      ⟨hname, hnone _ (by decide) (by decide), hgithub, hnone _ (by decide) (by decide),
        Option.map_eq_none_iff.2 (hnone _ (by decide) (by decide))⟩, .github name user⟩
  | @file name path hname hfile =>
    have hnone := hdefinite.only (by decide) hfile
    exact ⟨⟨name, none, none, some path, none⟩,
      ⟨hname, hnone _ (by decide) (by decide), hnone _ (by decide) (by decide), hfile,
        Option.map_eq_none_iff.2 (hnone _ (by decide) (by decide))⟩, .file name path⟩
  | @inline name fields hname hshortcuts =>
    have hnone := hdefinite.only (by decide) hshortcuts
    obtain ⟨fields, heq, hall⟩ :=
      hasType_shortcuts_iff.1 (hdefinite.typed _ (by decide) _ hshortcuts)
    obtain rfl := Json.members.inj heq
    have hread := entries?_eq_some_iff.2 ⟨_, rfl, hall, rfl⟩
    refine ⟨⟨name, none, none, none, some (EntryMap.lenient (.ofList fields))⟩,
      ⟨hname, hnone _ (by decide) (by decide), hnone _ (by decide) (by decide),
        hnone _ (by decide) (by decide), ?_⟩, .inline name _⟩
    rw [hshortcuts, Option.map_some, Option.map_some, hread]

theorem standsFor_of_ofJson (h : ofJson value = .ok s) :
    ((∃ name, value = .string name) ∨ Definite value) ∧ StandsFor value s := by
  rcases ofJson_eq_ok_iff.1 h with ⟨name, rfl, rfl⟩ | ⟨r, hr, hchooses⟩
  · exact ⟨.inl ⟨name, rfl⟩, .text rfl⟩
  · obtain ⟨hrecord, hholds⟩ := Record.ofJson?_eq_some_iff.1 hr
    obtain ⟨hdefinite, hstands⟩ := hchooses.definite hrecord hholds
    exact ⟨.inr hdefinite, hstands⟩

theorem Definite.ofJson (hdefinite : Definite value) (h : StandsFor value s) :
    ofJson value = .ok s := by
  obtain ⟨r, hholds, hchooses⟩ := h.exists_record hdefinite
  have hr := Record.ofJson?_eq_some_iff.2 ⟨hdefinite.record, hholds⟩
  exact ofJson_eq_ok_iff.2 (.inr ⟨r, hr, hchooses⟩)

/-- Nothing is given by a name but the name itself. -/
theorem ofJson_of_string {name : String} (h : StandsFor (.string name) s) :
    Source.ofJson (.string name) = .ok s := by
  cases h with
  | text htext =>
    obtain rfl := Json.string.inj htext
    rfl
  | official hname _ => cases hname
  | url _ hurl => cases hurl
  | github _ hgithub => cases hgithub
  | file _ hfile => cases hfile
  | inline _ hshortcuts => cases hshortcuts

end Choosing

/-- A value is read as a source exactly if it is a name or a definite record, and as no other
source than the one that it stands for. -/
theorem read_iff_definite (value : Json) :
    ((∃ s, ofJson value = .ok s) ↔ (∃ name, value = .string name) ∨ Definite value) ∧
    ∀ s, ofJson value = .ok s ↔
      ((∃ name, value = .string name) ∨ Definite value) ∧ StandsFor value s := by
  constructor
  · constructor
    · rintro ⟨s, h⟩
      exact (standsFor_of_ofJson h).1
    · rintro (⟨name, rfl⟩ | hdefinite)
      · exact ⟨.official name, rfl⟩
      · obtain ⟨s, hstands⟩ := hdefinite.exists_standsFor
        exact ⟨s, hdefinite.ofJson hstands⟩
  · intro s
    constructor
    · exact standsFor_of_ofJson
    · rintro ⟨⟨name, rfl⟩ | hdefinite, hstands⟩
      · exact ofJson_of_string hstands
      · exact hdefinite.ofJson hstands

/-- An array gives the members by their places, and a null is none. -/
example : ofJson (.array [.null, .null, .string "user"]) = .ok (.github none "user") := by rfl

end Source

end Shortcuts
