/-!
Maps from text keys, kept as lists of entries in strictly ascending key order. Keys are compared
by code points, which is also the order of their UTF-8 bytes.
-/
namespace Shortcuts

namespace Sorted

variable {α : Type}

/-- Puts an entry at its place; an entry with the same key is replaced. -/
def insert (key : String) (value : α) : List (String × α) → List (String × α)
  | [] => [(key, value)]
  | (k, v) :: rest =>
    if key < k then (key, value) :: (k, v) :: rest
    else if key = k then (key, value) :: rest
    else (k, v) :: insert key value rest

def Keys (entries : List (String × α)) : Prop :=
  entries.Pairwise fun a b => a.1 < b.1

theorem mem_insert {key : String} {value : α} {entries : List (String × α)} {e : String × α}
    (h : e ∈ insert key value entries) : e = (key, value) ∨ e ∈ entries := by
  induction entries with
  | nil => simpa [insert] using h
  | cons head rest ih =>
    unfold insert at h
    split at h
    · simpa using h
    · split at h
      · rcases List.mem_cons.1 h with rfl | h
        · exact .inl rfl
        · exact .inr (List.mem_cons_of_mem _ h)
      · rcases List.mem_cons.1 h with rfl | h
        · exact .inr (List.mem_cons_self ..)
        · exact (ih h).imp_right (List.mem_cons_of_mem _)

theorem Keys.insert {key : String} {value : α} {entries : List (String × α)}
    (h : Keys entries) : Keys (insert key value entries) := by
  induction entries with
  | nil => simp [Sorted.insert, Keys]
  | cons head rest ih =>
    obtain ⟨hhead, hrest⟩ := List.pairwise_cons.1 h
    unfold Sorted.insert
    split
    · rename_i hlt
      refine List.pairwise_cons.2 ⟨fun e he => ?_, h⟩
      rcases List.mem_cons.1 he with rfl | he
      · exact hlt
      · exact String.lt_trans hlt (hhead e he)
    · split
      · rename_i heq
        exact List.pairwise_cons.2 ⟨fun e he => heq ▸ hhead e he, hrest⟩
      · rename_i hnlt hne
        refine List.pairwise_cons.2 ⟨fun e he => ?_, ih hrest⟩
        rcases mem_insert he with rfl | he
        · exact Decidable.byContradiction fun h =>
            hne (String.le_antisymm (String.not_lt.1 h) (String.not_lt.1 hnlt))
        · exact hhead e he

theorem lookup_cons (e : String × α) (rest : List (String × α)) (name : String) :
    (e :: rest).lookup name = if name = e.1 then some e.2 else rest.lookup name := by
  by_cases h : name = e.1
  · have hb : (name == e.1) = true := by simpa using h
    rw [List.lookup_cons, hb, if_pos h]
  · have hb : (name == e.1) = false := by simpa using h
    rw [List.lookup_cons, hb, if_neg h]

theorem lookup_insert (key : String) (value : α) (entries : List (String × α)) (name : String) :
    (insert key value entries).lookup name =
      if name = key then some value else entries.lookup name := by
  induction entries with
  | nil => rw [insert, lookup_cons]
  | cons head rest ih =>
    unfold insert
    split
    · rw [lookup_cons]
    · split
      · rename_i heq
        rw [lookup_cons, lookup_cons]
        by_cases hname : name = key
        · rw [if_pos hname, if_pos hname]
        · rw [if_neg hname, if_neg hname, if_neg (heq ▸ hname)]
      · rename_i hne
        rw [lookup_cons, lookup_cons, ih]
        by_cases hhead : name = head.1
        · have hkey : name ≠ key := fun h => hne (h ▸ hhead)
          rw [if_pos hhead, if_neg hkey, if_pos hhead]
        · rw [if_neg hhead, if_neg hhead]

theorem lookup_eq_none_of_lt {entries : List (String × α)} {key : String}
    (h : ∀ e ∈ entries, key < e.1) : entries.lookup key = none := by
  refine List.lookup_eq_none_iff.2 fun e he => ?_
  have hne : key ≠ e.1 := fun heq => String.lt_irrefl e.1 (heq ▸ h e he)
  simpa using hne

theorem Keys.nodup {entries : List (String × α)} (h : Keys entries) : entries.Nodup := by
  refine List.Pairwise.imp ?_ h
  rintro a b hlt rfl
  exact String.lt_irrefl a.1 hlt

theorem Keys.lookup_eq_some_iff {entries : List (String × α)} (h : Keys entries)
    {e : String × α} : entries.lookup e.1 = some e.2 ↔ e ∈ entries := by
  induction entries with
  | nil => simp
  | cons head rest ih =>
    obtain ⟨hhead, hrest⟩ := List.pairwise_cons.1 h
    rw [lookup_cons, List.mem_cons]
    by_cases hkey : e.1 = head.1
    · have habsent : e ∉ rest := by
        intro hmem
        exact String.lt_irrefl _ (hkey ▸ hhead e hmem)
      rw [if_pos hkey]
      constructor
      · intro hvalue
        exact .inl (Prod.ext hkey (Option.some.inj hvalue).symm)
      · intro hmem
        rw [hmem.resolve_right habsent]
    · rw [if_neg hkey, ih hrest]
      constructor
      · exact .inr
      · intro hmem
        exact hmem.resolve_left fun heq => hkey (congrArg Prod.fst heq)

theorem Keys.lookup_reverse {entries : List (String × α)} (h : Keys entries) (name : String) :
    entries.reverse.lookup name = entries.lookup name := by
  induction entries with
  | nil => rfl
  | cons head rest ih =>
    obtain ⟨hhead, hrest⟩ := List.pairwise_cons.1 h
    rw [List.reverse_cons, List.lookup_append, ih hrest, lookup_cons, lookup_cons]
    by_cases hname : name = head.1
    · have habsent : rest.lookup name = none := lookup_eq_none_of_lt (hname ▸ hhead)
      rw [habsent, if_pos hname, if_pos hname, Option.none_or]
    · rw [if_neg hname, if_neg hname, List.lookup_nil, Option.or_none]

/-- Of entries put in one after another the later ones hide those from before. -/
theorem lookup_foldl_insert (later entries : List (String × α)) (name : String) :
    (later.foldl (fun found e => insert e.1 e.2 found) entries).lookup name =
      (later.reverse.lookup name).or (entries.lookup name) := by
  induction later generalizing entries with
  | nil => rfl
  | cons head rest ih =>
    rw [List.foldl_cons, ih, lookup_insert, List.reverse_cons, List.lookup_append, lookup_cons,
      Option.or_assoc]
    by_cases hname : name = head.1
    · rw [if_pos hname, if_pos hname, Option.some_or]
    · rw [if_neg hname, if_neg hname, List.lookup_nil, Option.none_or]

theorem Keys.foldl_insert {entries : List (String × α)} (h : Keys entries)
    (later : List (String × α)) :
    Keys (later.foldl (fun found e => Sorted.insert e.1 e.2 found) entries) := by
  induction later generalizing entries with
  | nil => exact h
  | cons head rest ih => exact ih h.insert

end Sorted

structure KeyMap (α : Type) where
  entries : List (String × α)
  sorted : Sorted.Keys entries

namespace KeyMap

variable {α β : Type}

def empty : KeyMap α := ⟨[], .nil⟩

def insert (m : KeyMap α) (key : String) (value : α) : KeyMap α :=
  ⟨Sorted.insert key value m.entries, m.sorted.insert⟩

def get? (m : KeyMap α) (key : String) : Option α := m.entries.lookup key

def keys (m : KeyMap α) : List String := m.entries.map Prod.fst

/-- Later entries win over earlier ones with the same key. -/
def ofList (entries : List (String × α)) : KeyMap α :=
  entries.foldl (fun m e => m.insert e.1 e.2) empty

/-- All entries of both maps; those of `later` win. -/
def extend (m later : KeyMap α) : KeyMap α :=
  later.entries.foldl (fun m e => m.insert e.1 e.2) m

@[simp] theorem get?_empty (key : String) : (empty : KeyMap α).get? key = none := rfl

theorem get?_insert (m : KeyMap α) (key : String) (value : α) (name : String) :
    (m.insert key value).get? name = if name = key then some value else m.get? name :=
  Sorted.lookup_insert key value m.entries name

private theorem entries_foldl_insert (entries : List (String × α)) (m : KeyMap α) :
    (entries.foldl (fun m e => m.insert e.1 e.2) m).entries =
      entries.foldl (fun found e => Sorted.insert e.1 e.2 found) m.entries := by
  induction entries generalizing m with
  | nil => rfl
  | cons e rest ih => exact ih (m.insert e.1 e.2)

theorem get?_extend (m later : KeyMap α) (name : String) :
    (m.extend later).get? name = (later.get? name).or (m.get? name) := by
  unfold get? extend
  rw [entries_foldl_insert, Sorted.lookup_foldl_insert, later.sorted.lookup_reverse]

theorem get?_ofList (entries : List (String × α)) (name : String) :
    (ofList entries).get? name = entries.reverse.lookup name := by
  rw [get?, ofList, entries_foldl_insert, Sorted.lookup_foldl_insert]
  exact Option.or_none

/-- Entries in ascending key order are told by what is found under each key. -/
theorem eq_of_get?_eq {m n : KeyMap α} (h : ∀ key, m.get? key = n.get? key) : m = n := by
  have hperm : m.entries.Perm n.entries := by
    rw [List.perm_ext_iff_of_nodup m.sorted.nodup n.sorted.nodup]
    intro e
    rw [← m.sorted.lookup_eq_some_iff, ← n.sorted.lookup_eq_some_iff]
    exact iff_of_eq (congrArg (· = some e.2) (h e.1))
  have hentries : m.entries = n.entries :=
    hperm.eq_of_pairwise (fun a b _ _ hab hba => absurd hba (String.lt_asymm hab)) m.sorted n.sorted
  cases m
  cases n
  cases hentries
  rfl

instance : Inhabited (KeyMap α) := ⟨empty⟩

instance [DecidableEq α] : DecidableEq (KeyMap α) := fun a b =>
  decidable_of_iff (a.entries = b.entries) (by cases a; cases b; simp)

end KeyMap

end Shortcuts
