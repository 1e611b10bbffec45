import Mathlib.Data.List.Basic
import Shortcuts.Text.Pieces

/-!
Replacing the occurrences of a word. Each occurrence gives the value and each character at which
none starts is kept. A value that is not empty and has none of a letter parts the runs of this
letter that stand around it, so no run of it grows. Characters can carry along whether they have
been put in, which changes nothing about the text.
-/
namespace Shortcuts.Text

section Replacing

variable (word value : List Char)

@[simp] theorem replace_nil : replace word value [] = [] := rfl

theorem replaceFrom_eq (skip : Nat) (text : List Char) :
    replaceFrom word value skip text = replace word value (text.drop skip) := by
  induction text generalizing skip with
  | nil => simp [replaceFrom]
  | cons c rest ih =>
    cases skip with
    | zero => rfl
    | succ skip => exact ih skip

variable {word} {c : Char} {rest : List Char}

theorem replace_cons_of_starts (h : word <+: c :: rest) : replace word value (c :: rest) =
    value ++ replace word value (rest.drop (word.length - 1)) := by
  rw [replace, replaceFrom, if_pos (List.isPrefixOf_iff_prefix.2 h), replaceFrom_eq]

theorem replace_cons (h : ¬ word <+: c :: rest) :
    replace word value (c :: rest) = c :: replace word value rest := by
  rw [replace, replaceFrom, if_neg (mt List.isPrefixOf_iff_prefix.1 h)]
  rfl

theorem replace_word_append (hword : word ≠ []) (rest : List Char) :
    replace word value (word ++ rest) = value ++ replace word value rest := by
  obtain ⟨letter, behind, rfl⟩ := List.exists_cons_of_ne_nil hword
  have hprefix : letter :: behind <+: letter :: (behind ++ rest) :=
    List.prefix_append (letter :: behind) rest
  have hdrop : (behind ++ rest).drop ((letter :: behind).length - 1) = rest :=
    List.drop_left
  rw [List.cons_append, replace_cons_of_starts value hprefix, hdrop]

/-- A text that has no character in common with the word is passed over. -/
theorem replace_append_of_disjoint (hword : word ≠ []) {text : List Char}
    (h : word.Disjoint text) (rest : List Char) :
    replace word value (text ++ rest) = text ++ replace word value rest := by
  induction text with
  | nil => rfl
  | cons c text ih =>
    rw [List.disjoint_cons_right] at h
    have hnone : ¬ word <+: c :: (text ++ rest) := by
      obtain ⟨letter, behind, rfl⟩ := List.exists_cons_of_ne_nil hword
      rw [List.cons_prefix_cons]
      rintro ⟨rfl, -⟩
      exact h.1 (List.mem_cons_self ..)
    rw [List.cons_append, replace_cons value hnone, ih h.2]
    rfl

variable {value}

/-- A run of a letter at the start of what a replacement gives was there before, as a value without
this letter ends every run that it meets. -/
theorem prefix_of_prefix_replace {letter : Char} (hne : value ≠ []) (hvalue : letter ∉ value)
    {n : Nat} {text : List Char} (h : List.replicate n letter <+: replace word value text) :
    List.replicate n letter <+: text := by
  induction text generalizing n with
  | nil => exact h
  | cons c rest ih =>
    cases n with
    | zero => exact List.nil_prefix
    | succ n =>
      rw [List.replicate_succ] at h ⊢
      by_cases hword : word <+: c :: rest
      · obtain ⟨first, others, rfl⟩ := List.exists_cons_of_ne_nil hne
        rw [replace_cons_of_starts _ hword, List.cons_append, List.cons_prefix_cons] at h
        exact absurd (h.1 ▸ List.mem_cons_self ..) hvalue
      · rw [replace_cons value hword, List.cons_prefix_cons] at h
        exact List.cons_prefix_cons.2 ⟨h.1, ih h.2⟩

end Replacing

/-! ## Where characters come from -/

/-- A character with whether a replacement has put it in. -/
structure Traced where
  char : Char
  putIn : Bool
  deriving DecidableEq, Repr

def given (text : List Char) : List Traced := text.map fun c => ⟨c, false⟩

def written (text : List Char) : List Traced := text.map fun c => ⟨c, true⟩

def plain (text : List Traced) : List Char := text.map Traced.char

/-- What no replacement has put in. -/
def kept (text : List Traced) : List Char := plain (text.filter fun t => !t.putIn)

theorem putIn_of_mem_given {text : List Char} {t : Traced} (h : t ∈ given text) :
    t.putIn = false := by
  obtain ⟨c, _, rfl⟩ := List.mem_map.1 h
  rfl

@[simp] theorem plain_append (front back : List Traced) :
    plain (front ++ back) = plain front ++ plain back := List.map_append

@[simp] theorem plain_given (text : List Char) : plain (given text) = text := by
  rw [plain, given, List.map_map]
  exact List.map_id text

@[simp] theorem plain_written (text : List Char) : plain (written text) = text := by
  rw [plain, written, List.map_map]
  exact List.map_id text

@[simp] theorem kept_append (front back : List Traced) :
    kept (front ++ back) = kept front ++ kept back := by
  rw [kept, List.filter_append, plain_append]
  rfl

theorem kept_cons (t : Traced) (rest : List Traced) : kept (t :: rest) = kept [t] ++ kept rest :=
  kept_append [t] rest

@[simp] theorem kept_given (text : List Char) : kept (given text) = text := by
  have hall : (given text).filter (fun t => !t.putIn) = given text := by
    rw [List.filter_eq_self]
    intro t ht
    rw [putIn_of_mem_given ht]
    rfl
  rw [kept, hall, plain_given]

@[simp] theorem kept_written (text : List Char) : kept (written text) = [] := by
  have hnone : (written text).filter (fun t => !t.putIn) = [] := by
    rw [List.filter_eq_nil_iff]
    intro t ht
    obtain ⟨c, _, rfl⟩ := List.mem_map.1 ht
    exact Bool.false_ne_true
  rw [kept, hnone]
  rfl

def replaceTracedFrom (word value : List Char) : (skip : Nat) → List Traced → List Traced
  | _, [] => []
  | skip + 1, _ :: rest => replaceTracedFrom word value skip rest
  | 0, t :: rest =>
    if word.isPrefixOf (plain (t :: rest)) then
      written value ++ replaceTracedFrom word value (word.length - 1) rest
    else t :: replaceTracedFrom word value 0 rest

/-- The replacement of a word: the value is written for each occurrence, and the other characters
stay what they are. -/
def replaceTraced (word value : List Char) (text : List Traced) : List Traced :=
  replaceTracedFrom word value 0 text

theorem plain_replaceTracedFrom (word value : List Char) (skip : Nat) (text : List Traced) :
    plain (replaceTracedFrom word value skip text) = replaceFrom word value skip (plain text) := by
  induction text generalizing skip with
  | nil => cases skip <;> rfl
  | cons t rest ih =>
    cases skip with
    | succ skip => exact ih skip
    | zero =>
      have hcons : plain (t :: rest) = t.char :: plain rest := rfl
      rw [replaceTracedFrom, hcons, replaceFrom]
      split
      · rw [plain_append, plain_written, ih]
      · rw [← ih]
        rfl

theorem plain_replaceTraced (word value : List Char) (text : List Traced) :
    plain (replaceTraced word value text) = replace word value (plain text) :=
  plain_replaceTracedFrom word value 0 text

theorem kept_replaceTracedFrom_sublist (word value : List Char) (skip : Nat)
    (text : List Traced) : (kept (replaceTracedFrom word value skip text)).Sublist (kept text) := by
  induction text generalizing skip with
  | nil => cases skip <;> exact List.Sublist.refl _
  | cons t rest ih =>
    rw [kept_cons t rest]
    cases skip with
    | succ skip => exact List.sublist_append_of_sublist_right (ih skip)
    | zero =>
      rw [replaceTracedFrom]
      split
      · rw [kept_append, kept_written]
        exact List.sublist_append_of_sublist_right (ih _)
      · rw [kept_cons t (replaceTracedFrom word value 0 rest)]
        exact (ih 0).append_left _

theorem mem_replaceTracedFrom {word value : List Char} {skip : Nat} {text : List Traced}
    {t : Traced} (h : t ∈ replaceTracedFrom word value skip text) :
    t ∈ text ∨ t.char ∈ value := by
  induction text generalizing skip with
  | nil => cases skip <;> cases h
  | cons first rest ih =>
    cases skip with
    | succ skip => exact (ih h).imp_left (List.mem_cons_of_mem first)
    | zero =>
      rw [replaceTracedFrom] at h
      split at h
      · rcases List.mem_append.1 h with hvalue | hrest
        · obtain ⟨c, hc, rfl⟩ := List.mem_map.1 hvalue
          exact .inr hc
        · exact (ih hrest).imp_left (List.mem_cons_of_mem first)
      · rcases List.mem_cons.1 h with rfl | hrest
        · exact .inl (List.mem_cons_self ..)
        · exact (ih hrest).imp_left (List.mem_cons_of_mem first)

end Shortcuts.Text
