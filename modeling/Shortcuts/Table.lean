/-!
Tables: entries in the order in which they are visited, each key once. `ofList` keeps the last of
several entries with one key.
-/
namespace Shortcuts

namespace Entries

variable {α β : Type}

/-- Leaves out every entry whose key occurs again further on. -/
def keepLast : List (String × α) → List (String × α)
  | [] => []
  | e :: rest => if rest.any (·.1 = e.1) then keepLast rest else e :: keepLast rest

theorem keepLast_sublist (entries : List (String × α)) : (keepLast entries).Sublist entries := by
  induction entries with
  | nil => exact .slnil
  | cons e rest ih =>
    unfold keepLast
    split
    · exact ih.cons _
    · exact ih.cons_cons _

theorem nodup_keepLast (entries : List (String × α)) :
    ((keepLast entries).map Prod.fst).Nodup := by
  induction entries with
  | nil => simp [keepLast]
  | cons e rest ih =>
    unfold keepLast
    split
    · exact ih
    · rename_i h
      rw [List.map_cons, List.nodup_cons]
      refine ⟨fun hmem => h ?_, ih⟩
      obtain ⟨f, hf, hfe⟩ := List.mem_map.1 hmem
      exact List.any_eq_true.2 ⟨f, (keepLast_sublist rest).mem hf, by simpa using hfe⟩

/-- Changes or drops the values and keeps the keys. -/
def filterMap (f : String → α → Option β) : List (String × α) → List (String × β)
  | [] => []
  | (k, a) :: rest =>
    match f k a with
    | some b => (k, b) :: filterMap f rest
    | none => filterMap f rest

theorem filterMap_keys_sublist (f : String → α → Option β) (entries : List (String × α)) :
    ((filterMap f entries).map Prod.fst).Sublist (entries.map Prod.fst) := by
  induction entries with
  | nil => exact .slnil
  | cons e rest ih =>
    obtain ⟨k, a⟩ := e
    unfold filterMap
    split
    · exact ih.cons_cons _
    · exact ih.cons _

theorem mem_filterMap {f : String → α → Option β} {entries : List (String × α)}
    {e : String × β} : e ∈ filterMap f entries ↔ ∃ a, (e.1, a) ∈ entries ∧ f e.1 a = some e.2 := by
  induction entries with
  | nil => simp [filterMap]
  | cons head rest ih =>
    obtain ⟨k, v⟩ := head
    unfold filterMap
    split
    · rename_i b hb
      rw [List.mem_cons, ih]
      constructor
      · rintro (rfl | ⟨a, ha, hf⟩)
        · exact ⟨v, List.mem_cons_self .., hb⟩
        · exact ⟨a, List.mem_cons_of_mem _ ha, hf⟩
      · rintro ⟨a, ha, hf⟩
        rcases List.mem_cons.1 ha with heq | ha
        · obtain ⟨rfl, rfl⟩ := Prod.mk.inj heq
          exact .inl (Prod.ext rfl (Option.some.inj (hf.symm.trans hb)))
        · exact .inr ⟨a, ha, hf⟩
    · rename_i hnone
      rw [ih]
      constructor
      · rintro ⟨a, ha, hf⟩
        exact ⟨a, List.mem_cons_of_mem _ ha, hf⟩
      · rintro ⟨a, ha, hf⟩
        rcases List.mem_cons.1 ha with heq | ha
        · obtain ⟨rfl, rfl⟩ := Prod.mk.inj heq
          cases hf.symm.trans hnone
        · exact ⟨a, ha, hf⟩

/-- Changes all values, unless one of them cannot be changed. -/
def mapAll? (f : α → Option β) : List (String × α) → Option (List (String × β))
  | [] => some []
  | (k, a) :: rest =>
    match f a, mapAll? f rest with
    | some b, some others => some ((k, b) :: others)
    | _, _ => none

theorem keys_of_mapAll? {f : α → Option β} {entries : List (String × α)}
    {changed : List (String × β)} (h : mapAll? f entries = some changed) :
    changed.map Prod.fst = entries.map Prod.fst := by
  induction entries generalizing changed with
  | nil => simp_all [mapAll?]
  | cons e rest ih =>
    obtain ⟨k, a⟩ := e
    unfold mapAll? at h
    split at h
    · rename_i others _ hothers
      obtain rfl := Option.some.inj h
      simp [ih hothers]
    · simp at h

theorem lookup_map (f : α → β) (entries : List (String × α)) (key : String) :
    (entries.map fun e => (e.1, f e.2)).lookup key = (entries.lookup key).map f := by
  induction entries with
  | nil => rfl
  | cons e rest ih =>
    rw [List.map_cons, List.lookup_cons, List.lookup_cons]
    cases key == e.1 with
    | true => rfl
    | false => exact ih

theorem lookup_eq_some_iff {entries : List (String × α)} (h : (entries.map Prod.fst).Nodup)
    (key : String) (a : α) : entries.lookup key = some a ↔ (key, a) ∈ entries := by
  induction entries with
  | nil => simp
  | cons e rest ih =>
    obtain ⟨k, v⟩ := e
    rw [List.map_cons, List.nodup_cons] at h
    rw [List.lookup_cons, List.mem_cons]
    by_cases hkey : key = k
    · subst hkey
      have habsent : (key, a) ∉ rest := fun hmem => h.1 (List.mem_map.2 ⟨_, hmem, rfl⟩)
      simp [habsent, eq_comm]
    · have hb : (key == k) = false := by simpa using hkey
      simp [hb, hkey, ih h.2]

end Entries

structure Table (α : Type) where
  entries : List (String × α)
  distinct : (entries.map Prod.fst).Nodup

namespace Table

variable {α β : Type}

def empty : Table α := ⟨[], .nil⟩

def ofList (entries : List (String × α)) : Table α :=
  ⟨Entries.keepLast entries, Entries.nodup_keepLast entries⟩

def get? (t : Table α) (key : String) : Option α := t.entries.lookup key

theorem get?_eq_some_iff (t : Table α) (key : String) (a : α) :
    t.get? key = some a ↔ (key, a) ∈ t.entries :=
  Entries.lookup_eq_some_iff t.distinct key a

def map (f : α → β) (t : Table α) : Table β :=
  ⟨t.entries.map fun e => (e.1, f e.2), by rw [List.map_map]; exact t.distinct⟩

theorem get?_map (f : α → β) (t : Table α) (key : String) :
    (t.map f).get? key = (t.get? key).map f :=
  Entries.lookup_map f t.entries key

def filterMap (f : String → α → Option β) (t : Table α) : Table β :=
  ⟨Entries.filterMap f t.entries, (Entries.filterMap_keys_sublist f t.entries).nodup t.distinct⟩

theorem get?_filterMap (f : String → α → Option β) (t : Table α) (key : String) :
    (t.filterMap f).get? key = (t.get? key).bind (f key) := by
  ext b
  rw [get?_eq_some_iff, Option.bind_eq_some_iff]
  simp only [get?_eq_some_iff]
  exact Entries.mem_filterMap

def mapAll? (f : α → Option β) (t : Table α) : Option (Table β) :=
  match h : Entries.mapAll? f t.entries with
  | some changed => some ⟨changed, Entries.keys_of_mapAll? h ▸ t.distinct⟩
  | none => none

/-- Whether two tables have the same entries, in whatever order. -/
def same [DecidableEq α] (s t : Table α) : Bool :=
  s.entries.length = t.entries.length && s.entries.all fun e => t.get? e.1 = some e.2

instance : Inhabited (Table α) := ⟨empty⟩

instance [DecidableEq α] : DecidableEq (Table α) := fun s t =>
  decidable_of_iff (s.entries = t.entries) (by cases s; cases t; simp)

end Table

end Shortcuts
