import Shortcuts.Proofs.Lookup.Alternatives
import Shortcuts.Sample

/-!
Entries written as JSON. The members of a written entry are told apart by their names, and its
include by its form, so an entry that was read from any value is read again from what is written
of it. These entries are exactly the regular ones: no extra member has a name with a meaning, and
what no form of an include takes is all that the catch-all holds.
-/
namespace Shortcuts

namespace Json

/-- The members of an object come by ascending name, the last that was given for each. -/
theorem exists_members_object (given : List (String × Json)) :
    ∃ fields, object given = .members fields ∧ Sorted.Keys fields ∧
      ∀ name, fields.lookup name = given.reverse.lookup name := by
  refine ⟨_, rfl, Sorted.Keys.foldl_insert .nil given, fun name => ?_⟩
  rw [Sorted.lookup_foldl_insert]
  exact Option.or_none

section Members

variable {fields : List (String × Json)} {p : String × Json → Bool} {name : String}

theorem lookup_filter_of_kept (h : ∀ value, p (name, value) = true) :
    (fields.filter p).lookup name = fields.lookup name := by
  induction fields with
  | nil => rfl
  | cons f rest ih =>
    rw [Sorted.lookup_cons, ← ih]
    by_cases hname : name = f.1
    · subst hname
      rw [List.filter_cons_of_pos (h f.2), Sorted.lookup_cons]
    · rw [if_neg hname, List.filter_cons]
      split
      · rw [Sorted.lookup_cons, if_neg hname]
      · rfl

theorem lookup_filter_of_dropped (h : ∀ value, p (name, value) = false) :
    (fields.filter p).lookup name = none := by
  refine List.lookup_eq_none_iff.2 fun f hf => ?_
  have hne : name ≠ f.1 := by
    rintro rfl
    simp [h f.2] at hf
  simpa using hne

end Members

variable {α : Type} {read : Json → Option α} {fields : List (String × Json)} {name : String}

/-- A member that is written only if it is there is read as it was. -/
theorem optional?_of_written (encode : α → Json) {written : Option α}
    (h : fields.lookup name = written.map encode)
    (hread : ∀ a, written = some a → read (encode a) = some a)
    (hnull : ∀ a, written = some a → encode a ≠ .null) :
    optional? read fields name = some written := by
  rw [optional?, h]
  cases written with
  | none => rfl
  | some a =>
    rw [Option.map_some]
    split
    · rename_i heq
      cases heq
    · rename_i heq
      exact absurd (Option.some.inj heq) (hnull a rfl)
    · rename_i heq
      rw [← Option.some.inj heq, hread a rfl]
      rfl

theorem optional?_text_of_written {written : Option String}
    (h : fields.lookup name = written.map .string) :
    optional? text? fields name = some written :=
  optional?_of_written .string h (fun _ _ => rfl) nofun

theorem exists_of_optional? {a : α} (h : optional? read fields name = some (some a)) :
    ∃ value, value ≠ .null ∧ read value = some a := by
  unfold optional? at h
  split at h
  · cases h
  · cases h
  · rename_i value hnull _
    obtain ⟨b, hread, heq⟩ := Option.map_eq_some_iff.1 h
    obtain rfl := Option.some.inj heq
    exact ⟨value, fun hvalue => hnull (hvalue ▸ rfl), hread⟩

theorem texts?_map_string (texts : List String) :
    texts? (.array (texts.map .string)) = some texts := by
  rw [texts?]
  induction texts with
  | nil => rfl
  | cons text rest ih => rw [List.map_cons, List.mapM_cons, ih]; rfl

/-- Induction over a value and, if it is an array, over its items one by one. -/
@[elab_as_elim]
theorem itemsInduction {P : Json → Prop} (plain : ∀ v, (∀ items, v ≠ .array items) → P v)
    (nil : P (.array [])) (cons : ∀ item rest, P item → P (.array rest) → P (.array (item :: rest)))
    (v : Json) : P v :=
  @Json.rec P (fun items => P (.array items)) (fun _ => True) (fun _ => True)
    (plain _ nofun) (fun _ => plain _ nofun) (fun _ => plain _ nofun) (fun _ => plain _ nofun)
    (fun _ h => h) (fun _ _ => plain _ nofun) nil cons trivial (fun _ _ _ _ => trivial)
    (fun _ _ _ => trivial) v

end Json

/-! ## Members -/

section Members

variable {α : Type} (name : String) (encode : α → Json) (value : Option α)

theorem reverse_member : (member name encode value).reverse = member name encode value := by
  cases value <;> rfl

theorem lookup_member (key : String) :
    (member name encode value).lookup key = if key = name then value.map encode else none := by
  cases value with
  | none => simp [member]
  | some a => simp [member, Sorted.lookup_cons]

end Members

theorem Deprecation.replacement?_query (query : String) :
    replacement? (.object [("query", .string query)]) = some query := rfl

theorem Deprecation.ofJson?_toJson (d : Deprecation) : ofJson? d.toJson = some d := by
  obtain ⟨fields, hobject, _, hlookup⟩ := Json.exists_members_object
    (member "created" .string d.created ++
      member "alternative" (fun query => .object [("query", .string query)]) d.alternative)
  have hcreated : Json.optional? Json.text? fields "created" = some d.created :=
    Json.optional?_text_of_written
      (by simp [hlookup, reverse_member, List.lookup_append, lookup_member])
  have halternative : Json.optional? replacement? fields "alternative" = some d.alternative :=
    Json.optional?_of_written (fun query => .object [("query", .string query)])
      (by simp [hlookup, reverse_member, List.lookup_append, lookup_member])
      (fun query _ => replacement?_query query) nofun
  rw [toJson, hobject, ofJson?, Json.record?]
  simp [hcreated, halternative]

namespace Shortcut

variable {fields : List (String × Json)} {s : Shortcut}

theorem ofMembers?_eq_some_iff :
    ofMembers? fields = some s ↔
      Json.optional? Json.text? fields "url" = some s.url ∧
      Json.optional? Json.text? fields "title" = some s.title ∧
      Json.optional? Json.text? fields "description" = some s.description ∧
      Json.optional? Json.texts? fields "tags" = some s.tags ∧
      Json.optional? Deprecation.ofJson? fields "deprecated" = some s.deprecated ∧
      KeyMap.ofList (fields.filter fun f => !fieldNames.contains f.1) = s.extra := by
  obtain ⟨url, title, description, tags, deprecated, extra⟩ := s
  simp only [ofMembers?, Option.bind_eq_bind, Option.bind_eq_some_iff, Option.some.injEq,
    mk.injEq]
  constructor
  · rintro ⟨_, hurl, _, htitle, _, hdescription, _, htags, _, hdeprecated, rfl, rfl, rfl, rfl, rfl,
      rfl⟩
    exact ⟨hurl, htitle, hdescription, htags, hdeprecated, rfl⟩
  · rintro ⟨hurl, htitle, hdescription, htags, hdeprecated, rfl⟩
    exact ⟨_, hurl, _, htitle, _, hdescription, _, htags, _, hdeprecated, rfl, rfl, rfl, rfl, rfl,
      rfl⟩

theorem lookup_toMembers (s : Shortcut) (name : String) :
    s.toMembers.reverse.lookup name = (s.extra.get? name).or
      ((if name = "deprecated" then s.deprecated.map Deprecation.toJson else none).or
      ((if name = "tags" then s.tags.map fun tags => .array (tags.map .string) else none).or
      ((if name = "description" then s.description.map .string else none).or
      ((if name = "title" then s.title.map .string else none).or
      (if name = "url" then s.url.map .string else none))))) := by
  simp only [toMembers, List.reverse_append, reverse_member, List.lookup_append, lookup_member,
    s.extra.sorted.lookup_reverse, KeyMap.get?]

/-- No extra member has a name with a meaning of its own. -/
def Unreserved (s : Shortcut) : Prop :=
  ∀ name ∈ "include" :: fieldNames, s.extra.get? name = none

theorem unreserved_ofMembers? (h : ofMembers? (fields.filter fun f => f.1 ≠ "include") = some s) :
    s.Unreserved := by
  obtain ⟨_, _, _, _, _, hextra⟩ := ofMembers?_eq_some_iff.1 h
  intro name hname
  rw [← hextra, KeyMap.get?_ofList, ← List.filter_reverse, ← List.filter_reverse]
  rcases List.mem_cons.1 hname with rfl | hname
  · rw [Json.lookup_filter_of_kept (by simp [fieldNames])]
    exact Json.lookup_filter_of_dropped (by simp)
  · exact Json.lookup_filter_of_dropped (by simpa using hname)

/-- The members of a shortcut are read as the shortcut, in whatever order they were given. -/
theorem Unreserved.ofMembers? (h : s.Unreserved) (hsorted : Sorted.Keys fields)
    (hlookup : ∀ name, fields.lookup name = s.toMembers.reverse.lookup name) :
    Shortcut.ofMembers? fields = some s := by
  have hfield : ∀ name ∈ fieldNames, s.extra.get? name = none := fun name hname =>
    h name (List.mem_cons_of_mem _ hname)
  simp only [lookup_toMembers] at hlookup
  refine ofMembers?_eq_some_iff.2 ⟨?_, ?_, ?_, ?_, ?_, ?_⟩
  · exact Json.optional?_text_of_written (by simp [hlookup, hfield "url" (by decide)])
  · exact Json.optional?_text_of_written (by simp [hlookup, hfield "title" (by decide)])
  · exact Json.optional?_text_of_written (by simp [hlookup, hfield "description" (by decide)])
  · exact Json.optional?_of_written (fun tags => .array (tags.map .string))
      (by simp [hlookup, hfield "tags" (by decide)])
      (fun tags _ => Json.texts?_map_string tags) nofun
  · exact Json.optional?_of_written Deprecation.toJson
      (by simp [hlookup, hfield "deprecated" (by decide)])
      (fun d _ => d.ofJson?_toJson) nofun
  · apply KeyMap.eq_of_get?_eq
    intro name
    have hkept : Sorted.Keys (fields.filter fun f => !fieldNames.contains f.1) := hsorted.filter _
    rw [KeyMap.get?_ofList, hkept.lookup_reverse]
    by_cases hname : name ∈ fieldNames
    · rw [hfield name hname]
      exact Json.lookup_filter_of_dropped (by simpa using hname)
    · rw [Json.lookup_filter_of_kept (by simpa using hname), hlookup]
      simp only [fieldNames, List.mem_cons, List.not_mem_nil, or_false, not_or] at hname
      simp [hname]

end Shortcut

/-! ## Includes -/

namespace Include

/-- The catch-all holds only what is read as no other form. -/
def Genuine (i : Include) : Prop :=
  ∀ value, .unrecognized value ∈ i.leaves → ofJson value = .unrecognized value

theorem ofJson_members_cases (fields : List (String × Json)) :
    (∃ k within, ofJson (.members fields) = .reference k within) ∨
      ofJson (.members fields) = .unrecognized (.members fields) := by
  rw [ofJson]
  cases reference? fields with
  | none => exact .inr rfl
  | some r => exact .inl ⟨r.1, r.2, rfl⟩

theorem eq_of_ofJson_unrecognized {value other : Json} (h : ofJson value = .unrecognized other) :
    value = other := by
  cases value with
  | null | bool _ | number _ => exact Include.unrecognized.inj h
  | string _ | array _ => cases h
  | members fields =>
    rcases ofJson_members_cases fields with ⟨k, within, hread⟩ | hread
    · cases hread.symm.trans h
    · exact Include.unrecognized.inj (hread.symm.trans h)

/-- A value that is no array is read as a single form. -/
theorem leaves_ofJson_plain {value : Json} (h : ∀ items, value ≠ .array items) :
    (ofJson value).leaves = [ofJson value] := by
  match value with
  | .null | .bool _ | .number _ | .string _ => rfl
  | .array items => exact absurd rfl (h items)
  | .members fields =>
    rcases ofJson_members_cases fields with ⟨k, within, hread⟩ | hread
    · rw [hread]
      rfl
    · rw [hread]
      rfl

theorem genuine_ofJson_plain {value : Json} (h : ∀ items, value ≠ .array items) :
    (ofJson value).Genuine := by
  intro other hother
  rw [leaves_ofJson_plain h, List.mem_singleton] at hother
  obtain rfl := eq_of_ofJson_unrecognized hother.symm
  exact hother.symm

theorem genuine_ofJson (value : Json) : (ofJson value).Genuine := by
  induction value using Json.itemsInduction with
  | plain value h => exact genuine_ofJson_plain h
  | nil => exact fun _ h => nomatch h
  | cons item rest ih ihrest =>
    intro other hother
    have hlist : ofJson (.array (item :: rest)) = .list (ofJson item :: ofItems rest) := rfl
    rw [hlist, leaves_list_cons] at hother
    exact (List.mem_append.1 hother).elim (ih other) (ihrest other)

theorem reference?_written {fields : List (String × Json)} {k : String} {within : Option String}
    (h : ∀ name, fields.lookup name =
      (("key", Json.string k) :: member "namespace" .string within).reverse.lookup name) :
    reference? fields = some (k, within) := by
  simp only [List.reverse_cons, reverse_member, List.lookup_append, lookup_member,
    Sorted.lookup_cons] at h
  have hkey : fields.lookup "key" = some (.string k) := by simp [h]
  have hwithin : Json.optional? Json.text? fields "namespace" = some within :=
    Json.optional?_text_of_written (by simp [h])
  simp [reference?, hkey, hwithin, Json.text?]

/-- An include whose catch-alls are genuine is read as it was written, form by form. -/
theorem Genuine.ofJson_toJson {i : Include} (h : i.Genuine) : ofJson i.toJson = i := by
  induction i using alternativesInduction with
  | key k => rfl
  | reference k within =>
    obtain ⟨fields, hobject, _, hlookup⟩ := Json.exists_members_object
      (("key", .string k) :: member "namespace" .string within)
    rw [toJson, hobject, ofJson, reference?_written hlookup]
  | unrecognized value => exact h value (List.mem_singleton_self _)
  | nil => rfl
  | cons i rest ih ihrest =>
    have hi := ih fun value hvalue => h value (List.mem_append.2 (.inl hvalue))
    have hrest := ihrest fun value hvalue => h value (List.mem_append.2 (.inr hvalue))
    have hlist : ofJson (Include.list (i :: rest)).toJson =
        .list (ofJson i.toJson :: ofItems (toItems rest)) := rfl
    have hitems : ofItems (toItems rest) = rest := Include.list.inj hrest
    rw [hlist, hi, hitems]

theorem toJson_eq_null_iff {i : Include} : i.toJson = .null ↔ i = .unrecognized .null := by
  cases i with
  | unrecognized value => rw [toJson, unrecognized.injEq]
  | key _ | reference _ _ | list _ => exact ⟨nofun, nofun⟩

end Include

/-! ## Entries -/

/-- A definition whose members and include keep their meaning when they are written. -/
structure Definition.Regular (d : Definition) : Prop where
  /-- A null would be read as no include. -/
  include_ne_null : d.include? ≠ some (.unrecognized .null)
  genuine : ∀ i, d.include? = some i → i.Genuine
  unreserved : d.shortcut.Unreserved

namespace Definition

variable {fields : List (String × Json)} {d : Definition}

theorem ofMembers?_eq_some_iff :
    ofMembers? fields = some d ↔
      Json.optional? (fun value => some (Include.ofJson value)) fields "include" =
        some d.include? ∧
      Shortcut.ofMembers? (fields.filter fun f => f.1 ≠ "include") = some d.shortcut := by
  obtain ⟨i, s⟩ := d
  simp only [ofMembers?, Option.bind_eq_bind, Option.bind_eq_some_iff, Option.some.injEq,
    mk.injEq]
  constructor
  · rintro ⟨_, hinclude, _, hshortcut, rfl, rfl⟩
    exact ⟨hinclude, hshortcut⟩
  · rintro ⟨hinclude, hshortcut⟩
    exact ⟨_, hinclude, _, hshortcut, rfl, rfl⟩

theorem regular_of_ofMembers? (h : ofMembers? fields = some d) : d.Regular := by
  obtain ⟨hinclude, hshortcut⟩ := ofMembers?_eq_some_iff.1 h
  have hread : ∀ i, d.include? = some i → ∃ value, value ≠ .null ∧ Include.ofJson value = i := by
    intro i hi
    rw [hi] at hinclude
    obtain ⟨value, hnull, hvalue⟩ := Json.exists_of_optional? hinclude
    exact ⟨value, hnull, Option.some.inj hvalue⟩
  refine ⟨fun hnull => ?_, fun i hi => ?_, Shortcut.unreserved_ofMembers? hshortcut⟩
  · obtain ⟨value, hvalue, hofJson⟩ := hread _ hnull
    exact hvalue (Include.eq_of_ofJson_unrecognized hofJson)
  · obtain ⟨value, _, rfl⟩ := hread i hi
    exact Include.genuine_ofJson value

theorem Regular.ofJson?_toJson (h : d.Regular) : Entry.ofJson? d.toJson = some (.full d) := by
  obtain ⟨fields, hobject, hsorted, hlookup⟩ := Json.exists_members_object
    (member "include" Include.toJson d.include? ++ d.shortcut.toMembers)
  simp only [List.reverse_append, reverse_member, List.lookup_append, lookup_member] at hlookup
  have hown : d.shortcut.toMembers.reverse.lookup "include" = none := by
    simp [Shortcut.lookup_toMembers, h.unreserved "include" (by simp)]
  have hinclude : Json.optional? (fun value => some (Include.ofJson value)) fields "include" =
      some d.include? := by
    refine Json.optional?_of_written Include.toJson (by simp [hlookup, hown]) (fun i hi => ?_)
      fun i hi hnull => ?_
    · rw [(h.genuine i hi).ofJson_toJson]
    · exact h.include_ne_null (hi.trans (congrArg some (Include.toJson_eq_null_iff.1 hnull)))
  have hshortcut : Shortcut.ofMembers? (fields.filter fun f => f.1 ≠ "include") =
      some d.shortcut := by
    refine h.unreserved.ofMembers? (hsorted.filter _) fun name => ?_
    by_cases hname : name = "include"
    · rw [hname, hown]
      exact Json.lookup_filter_of_dropped (by simp)
    · rw [Json.lookup_filter_of_kept (by simpa using hname), hlookup, if_neg hname,
        Option.or_none]
  rw [toJson, hobject, Entry.ofJson?, ofMembers?_eq_some_iff.2 ⟨hinclude, hshortcut⟩]
  rfl

end Definition

namespace Entry

/-- A template always keeps its meaning. -/
def Regular : Entry → Prop
  | .short _ => True
  | .full d => d.Regular

variable {e : Entry}

theorem regular_of_ofJson? {value : Json} (h : ofJson? value = some e) : e.Regular := by
  match value, h with
  | .string template, h =>
    obtain rfl := Option.some.inj h
    trivial
  | .members fields, h =>
    obtain ⟨d, hd, rfl⟩ := Option.map_eq_some_iff.1 h
    exact Definition.regular_of_ofMembers? hd

theorem Regular.ofJson?_toJson (h : e.Regular) : ofJson? e.toJson = some e := by
  match e, h with
  | .short template, _ => rfl
  | .full d, h => exact Definition.Regular.ofJson?_toJson h

/-- Whatever value an entry was read from, it is read again from what is written of it. The
entries that are read from any value at all are the regular ones. -/
theorem reads_back (e : Entry) :
    (∀ value, ofJson? value = some e → ofJson? e.toJson = some e) ∧
    ((∃ value, ofJson? value = some e) ↔ e.Regular) := by
  refine ⟨fun value h => (regular_of_ofJson? h).ofJson?_toJson, ?_, fun h => ?_⟩
  · rintro ⟨value, h⟩
    exact regular_of_ofJson? h
  · exact ⟨e.toJson, h.ofJson?_toJson⟩

end Entry

namespace Sample

/-- A definition in roundabout notation: nulls, records as arrays, and an include with lists in
lists, a reference that says more than it has to and values that are none. -/
def longhand : Json := .object [
  ("url", .string "https://a.example/<q>"),
  ("title", .null),
  ("deprecated", .array [.string "2024-03-31", .array [.string "b <q>"]]),
  ("include", .array [
    .string "a-<$language> 1",
    .object [("key", .string "b 1"), ("namespace", .null), ("reason", .string "moved")],
    .array [.object [("key", .string "c 1"), ("namespace", .string "o")], .null],
    .object [("namespace", .string "o")]]),
  ("examples", .object [("include", .null), ("tags", .string "none")])]

/-- It is written in another way, which is read as the same entry. -/
theorem longhand_reads_back :
    ∃ e, Entry.ofJson? longhand = some e ∧ e.toJson ≠ longhand ∧
      Entry.ofJson? e.toJson = some e ∧ e.Regular := by
  obtain ⟨e, he⟩ : ∃ e, Entry.ofJson? longhand = some e := ⟨_, rfl⟩
  have hwritten : (Entry.ofJson? longhand).map Entry.toJson ≠ some longhand := by
    decide +kernel
  rw [he, Option.map_some] at hwritten
  obtain ⟨hreads, hregular⟩ := e.reads_back
  exact ⟨e, he, fun h => hwritten (congrArg some h), hreads longhand he,
    hregular.1 ⟨longhand, he⟩⟩

end Sample

end Shortcuts
