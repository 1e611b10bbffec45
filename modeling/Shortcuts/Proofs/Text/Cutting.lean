import Mathlib.Data.List.TakeWhile
import Shortcuts.Text.Blank
import Shortcuts.Text.Pieces

/-!
Cutting texts at a character and trimming them. Pieces that do not contain the character are what
their joined text is cut into, and a trimmed text neither starts nor ends with white space.
-/
namespace Shortcuts.Text

/-! ## Cutting -/

theorem notMem_split {sep : Char} {text piece : List Char} (h : piece ∈ split sep text) :
    sep ∉ piece := by
  induction text generalizing piece with
  | nil =>
    rw [split, List.mem_singleton] at h
    rw [h]
    exact List.not_mem_nil
  | cons c rest ih =>
    rw [split] at h
    split at h
    · rcases List.mem_cons.1 h with rfl | h
      · exact List.not_mem_nil
      · exact ih h
    · rename_i hc
      split at h
      · rw [List.mem_singleton.1 h, List.mem_singleton]
        exact fun heq => hc heq.symm
      · rename_i first others hsplit
        rcases List.mem_cons.1 h with rfl | h
        · have hfirst := ih (hsplit ▸ List.mem_cons_self ..)
          rw [List.mem_cons, not_or]
          exact ⟨fun heq => hc heq.symm, hfirst⟩
        · exact ih (hsplit ▸ List.mem_cons_of_mem _ h)

theorem split_ne_nil (sep : Char) (text : List Char) : split sep text ≠ [] := by
  cases text with
  | nil => simp [split]
  | cons c rest =>
    rw [split]
    split
    · simp
    · split <;> simp

theorem exists_split_concat (sep : Char) (text : List Char) :
    ∃ front last, split sep text = front ++ [last] := by
  have hne := split_ne_nil sep text
  exact ⟨_, _, (List.dropLast_concat_getLast hne).symm⟩

theorem subset_of_mem_split {sep : Char} {text piece : List Char} (h : piece ∈ split sep text) :
    piece ⊆ text := by
  induction text generalizing piece with
  | nil =>
    rw [split, List.mem_singleton] at h
    rw [h]
    exact List.Subset.refl []
  | cons c rest ih =>
    rw [split] at h
    split at h
    · rcases List.mem_cons.1 h with rfl | h
      · exact List.nil_subset _
      · exact List.subset_cons_of_subset c (ih h)
    · split at h
      · rw [List.mem_singleton.1 h]
        exact List.cons_subset_cons c (List.nil_subset _)
      · rename_i first others hsplit
        rcases List.mem_cons.1 h with rfl | h
        · exact List.cons_subset_cons c (ih (hsplit ▸ List.mem_cons_self ..))
        · exact List.subset_cons_of_subset c (ih (hsplit ▸ List.mem_cons_of_mem _ h))

theorem split_of_notMem {sep : Char} {text : List Char} (h : sep ∉ text) :
    split sep text = [text] := by
  induction text with
  | nil => rfl
  | cons c rest ih =>
    rw [List.mem_cons, not_or] at h
    rw [split, if_neg (Ne.symm h.1), ih h.2]

theorem split_append {sep : Char} {piece : List Char} (h : sep ∉ piece) (rest : List Char) :
    split sep (piece ++ sep :: rest) = piece :: split sep rest := by
  induction piece with
  | nil => rw [List.nil_append, split, if_pos rfl]
  | cons c piece ih =>
    rw [List.mem_cons, not_or] at h
    rw [List.cons_append, split, if_neg (Ne.symm h.1), ih h.2]

/-- Induction over what is joined, as a separator needs something behind it. -/
@[elab_as_elim]
theorem joinInduction {α : Type} {P : List α → Prop} (nil : P []) (singleton : ∀ x, P [x])
    (cons : ∀ x rest, rest ≠ [] → P rest → P (x :: rest)) (xs : List α) : P xs := by
  induction xs with
  | nil => exact nil
  | cons x rest ih =>
    by_cases hrest : rest = []
    · subst hrest
      exact singleton x
    · exact cons x rest hrest ih

theorem join_singleton (sep piece : List Char) : join sep [piece] = piece :=
  List.intercalate_singleton

theorem join_cons (sep piece : List Char) {rest : List (List Char)} (h : rest ≠ []) :
    join sep (piece :: rest) = piece ++ sep ++ join sep rest := by
  rw [join, List.intercalate_cons_of_ne_nil h]
  rfl

theorem mem_join {sep : List Char} {pieces : List (List Char)} {c : Char}
    (h : c ∈ join sep pieces) : c ∈ sep ∨ ∃ piece ∈ pieces, c ∈ piece := by
  induction pieces using joinInduction with
  | nil => cases h
  | singleton piece =>
    rw [join_singleton] at h
    exact .inr ⟨piece, List.mem_singleton_self piece, h⟩
  | cons piece rest hrest ih =>
    rw [join_cons _ _ hrest] at h
    rcases List.mem_append.1 h with hfirst | hrest
    · rcases List.mem_append.1 hfirst with hpiece | hsep
      · exact .inr ⟨piece, List.mem_cons_self .., hpiece⟩
      · exact .inl hsep
    · rcases ih hrest with hsep | ⟨other, hother, hc⟩
      · exact .inl hsep
      · exact .inr ⟨other, List.mem_cons_of_mem _ hother, hc⟩

theorem split_join {sep : Char} {pieces : List (List Char)} (hne : pieces ≠ [])
    (h : ∀ piece ∈ pieces, sep ∉ piece) : split sep (join [sep] pieces) = pieces := by
  induction pieces using joinInduction with
  | nil => exact absurd rfl hne
  | singleton piece =>
    rw [List.forall_mem_singleton] at h
    rw [join_singleton, split_of_notMem h]
  | cons piece rest hrest ih =>
    rw [List.forall_mem_cons] at h
    rw [join_cons _ _ hrest, List.append_assoc, List.singleton_append, split_append h.1,
      ih hrest h.2]

theorem join_split (sep : Char) (text : List Char) : join [sep] (split sep text) = text := by
  induction text with
  | nil => rfl
  | cons c rest ih =>
    rw [split]
    split
    · rename_i hc
      rw [join_cons _ _ (split_ne_nil sep rest), ih, hc]
      rfl
    · split
      · rename_i hnil
        exact absurd hnil (split_ne_nil sep rest)
      · rename_i piece pieces hsplit
        rw [hsplit] at ih
        rw [← ih]
        cases pieces with
        | nil => simp [join]
        | cons next pieces => simp [join, List.intercalate_cons_cons]

/-- A text starts with the separator exactly if nothing stands in front of its first one. -/
theorem head?_dropLast_split {sep : Char} (text : List Char) :
    (split sep text).dropLast.head? = some [] ↔ text.head? = some sep := by
  cases text with
  | nil => simp [split]
  | cons c rest =>
    rw [split]
    split
    · rename_i hc
      obtain ⟨piece, pieces, hsplit⟩ := List.exists_cons_of_ne_nil (split_ne_nil sep rest)
      simp [hsplit, hc]
    · rename_i hc
      obtain ⟨piece, pieces, hsplit⟩ := List.exists_cons_of_ne_nil (split_ne_nil sep rest)
      rw [hsplit]
      cases pieces <;> simp [hc]

/-! ## Trimming -/

/-- A text that neither starts nor ends with white space. -/
structure Trimmed (text : List Char) : Prop where
  start : ∀ c, text.head? = some c → isBlank c = false
  stop : ∀ c, text.getLast? = some c → isBlank c = false

theorem trimStart_of_head {text : List Char} (h : ∀ c, text.head? = some c → isBlank c = false) :
    trimStart text = text := by
  cases text with
  | nil => rfl
  | cons c rest => rw [trimStart, List.dropWhile_cons, if_neg (by simp [h c rfl])]

theorem Trimmed.trim_eq {text : List Char} (h : Trimmed text) : trim text = text := by
  have hback : trimStart text.reverse = text.reverse := by
    refine trimStart_of_head fun c hc => h.stop c ?_
    rwa [List.head?_reverse] at hc
  rw [trim, trimStart_of_head h.start, trimEnd, ← trimStart, hback, List.reverse_reverse]

theorem isBlank_of_head?_trimStart {text : List Char} {c : Char}
    (h : (trimStart text).head? = some c) : isBlank c = false := by
  have hnot := List.head?_dropWhile_not isBlank text
  rw [← trimStart, h] at hnot
  exact hnot

theorem isPrefix_trimEnd (text : List Char) : trimEnd text <+: text := by
  have hsuffix := (List.dropWhile_suffix isBlank (l := text.reverse))
  rw [← List.reverse_prefix, List.reverse_reverse] at hsuffix
  exact hsuffix

theorem trimmed_trim (text : List Char) : Trimmed (trim text) := by
  constructor
  · intro c hc
    obtain ⟨rest, hrest⟩ := isPrefix_trimEnd (trimStart text)
    have hstart : (trimStart text).head? = some c := by
      rw [← hrest, List.head?_append, ← trim, hc]
      rfl
    exact isBlank_of_head?_trimStart hstart
  · intro c hc
    rw [trim, trimEnd, List.getLast?_reverse, ← trimStart] at hc
    exact isBlank_of_head?_trimStart hc

theorem trimmed_iff (text : List Char) : Trimmed text ↔ trim text = text :=
  ⟨Trimmed.trim_eq, fun h => h ▸ trimmed_trim text⟩

instance (text : List Char) : Decidable (Trimmed text) :=
  decidable_of_iff _ (trimmed_iff text).symm

theorem trimmed_of_forall {text : List Char} (h : ∀ c ∈ text, isBlank c = false) : Trimmed text :=
  ⟨fun c hc => h c (List.mem_of_mem_head? hc), fun c hc => h c (List.mem_of_getLast? hc)⟩

/-- What stands at the ends of two trimmed texts around a character that is not white space is at
the ends of one of them, or it is that character. -/
theorem Trimmed.append_cons {front back : List Char} {c : Char} (hfront : Trimmed front)
    (hc : isBlank c = false) (hback : Trimmed back) : Trimmed (front ++ c :: back) := by
  constructor
  · intro d hd
    cases front with
    | nil =>
      obtain rfl : c = d := Option.some.inj hd
      exact hc
    | cons _ _ => exact hfront.start d hd
  · intro d hd
    rw [List.getLast?_append, List.getLast?_cons, Option.some_or] at hd
    cases hlast : back.getLast? with
    | none =>
      rw [hlast] at hd
      obtain rfl : c = d := Option.some.inj hd
      exact hc
    | some last =>
      rw [hlast] at hd
      exact hback.stop d (hlast.trans hd)

theorem trim_sublist (text : List Char) : (trim text).Sublist text :=
  (isPrefix_trimEnd _).sublist.trans (List.dropWhile_sublist isBlank)

theorem trimEnd_append {front : List Char}
    (h : ∀ c, front.getLast? = some c → isBlank c = false) (back : List Char) :
    trimEnd (front ++ back) = front ++ trimEnd back := by
  have hfront : front.reverse.dropWhile isBlank = front.reverse := by
    refine trimStart_of_head fun c hc => h c ?_
    rwa [List.head?_reverse] at hc
  rw [trimEnd, trimEnd, List.reverse_append, List.dropWhile_append, hfront]
  split
  · rename_i hnil
    rw [List.isEmpty_iff.1 hnil, List.reverse_reverse, List.reverse_nil, List.append_nil]
  · rw [List.reverse_append, List.reverse_reverse]

theorem trim_blank_append {front : List Char} (h : ∀ c ∈ front, isBlank c = true)
    (text : List Char) : trim (front ++ text) = trim text := by
  rw [trim, trim, trimStart, List.dropWhile_append_of_pos h, ← trimStart]

theorem trim_append_blank {back : List Char} (h : ∀ c ∈ back, isBlank c = true)
    (text : List Char) : trim (text ++ back) = trim text := by
  have hback : ∀ c ∈ back.reverse, isBlank c = true := fun c hc => h c (List.mem_reverse.1 hc)
  have hend : ∀ front, trimEnd (front ++ back) = trimEnd front := by
    intro front
    rw [trimEnd, trimEnd, List.reverse_append, List.dropWhile_append_of_pos hback]
  rw [trim, trim, trimStart, List.dropWhile_append]
  split
  · rename_i hnil
    rw [List.dropWhile_eq_nil_iff.2 h, trimStart, List.isEmpty_iff.1 hnil]
  · exact hend _

theorem exists_trimEnd (text : List Char) :
    ∃ back, text = trimEnd text ++ back ∧ ∀ c ∈ back, isBlank c = true := by
  refine ⟨(text.reverse.takeWhile isBlank).reverse, ?_, ?_⟩
  · rw [trimEnd, ← List.reverse_append, List.takeWhile_append_dropWhile, List.reverse_reverse]
  · intro c hc
    exact List.all_eq_true.1 List.all_takeWhile c (List.mem_reverse.1 hc)

theorem trim_trimEnd (text : List Char) : trim (trimEnd text) = trim text := by
  obtain ⟨back, htext, hback⟩ := exists_trimEnd text
  exact (trim_append_blank hback (trimEnd text)).symm.trans (congrArg trim htext.symm)

/-- White space is all that a text is trimmed of. -/
theorem exists_trim (text : List Char) :
    ∃ front back, text = front ++ (trim text ++ back) ∧
      (∀ c ∈ front, isBlank c = true) ∧ ∀ c ∈ back, isBlank c = true := by
  obtain ⟨back, hstart, hback⟩ := exists_trimEnd (trimStart text)
  refine ⟨text.takeWhile isBlank, back, ?_, List.all_eq_true.1 List.all_takeWhile, hback⟩
  rw [trim, ← hstart, trimStart, List.takeWhile_append_dropWhile]

/-! ## Trimming what is cut -/

section TrimmedPieces

variable {sep : Char}

theorem exists_split_prepend {front : List Char} (h : sep ∉ front) (text : List Char) :
    ∃ first pieces, split sep text = first :: pieces ∧
      split sep (front ++ text) = (front ++ first) :: pieces := by
  obtain ⟨first, pieces, hsplit⟩ := List.exists_cons_of_ne_nil (split_ne_nil sep text)
  refine ⟨first, pieces, hsplit, ?_⟩
  induction front with
  | nil => exact hsplit
  | cons c front ih =>
    rw [List.mem_cons, not_or] at h
    rw [List.cons_append, split, if_neg (Ne.symm h.1), ih h.2]
    rfl

theorem exists_split_append {back : List Char} (h : sep ∉ back) (text : List Char) :
    ∃ pieces last, split sep text = pieces ++ [last] ∧
      split sep (text ++ back) = pieces ++ [last ++ back] := by
  induction text with
  | nil => exact ⟨[], [], rfl, split_of_notMem h⟩
  | cons c rest ih =>
    obtain ⟨pieces, last, hrest, hback⟩ := ih
    rw [List.cons_append, split, split, hrest, hback]
    split
    · exact ⟨[] :: pieces, last, rfl, rfl⟩
    · cases pieces with
      | nil => exact ⟨[], c :: last, rfl, rfl⟩
      | cons piece pieces => exact ⟨(c :: piece) :: pieces, last, rfl, rfl⟩

variable (hsep : isBlank sep = false)

include hsep

theorem notMem_of_blank {text : List Char} (h : ∀ c ∈ text, isBlank c = true) : sep ∉ text := by
  intro hmem
  rw [h sep hmem] at hsep
  cases hsep

theorem map_trim_split_prepend {front : List Char} (h : ∀ c ∈ front, isBlank c = true)
    (text : List Char) : (split sep (front ++ text)).map trim = (split sep text).map trim := by
  obtain ⟨first, pieces, hsplit, hfront⟩ := exists_split_prepend (notMem_of_blank hsep h) text
  rw [hfront, hsplit, List.map_cons, List.map_cons, trim_blank_append h]

theorem map_trim_split_append {back : List Char} (h : ∀ c ∈ back, isBlank c = true)
    (text : List Char) : (split sep (text ++ back)).map trim = (split sep text).map trim := by
  obtain ⟨pieces, last, hsplit, hback⟩ := exists_split_append (notMem_of_blank hsep h) text
  rw [hback, hsplit, List.map_append, List.map_append, List.map_singleton, List.map_singleton,
    trim_append_blank h]

/-- Pieces that are trimmed do not show whether the text was trimmed before. -/
theorem map_trim_split_trim (text : List Char) :
    (split sep (trim text)).map trim = (split sep text).map trim := by
  obtain ⟨front, back, htext, hfront, hback⟩ := exists_trim text
  calc (split sep (trim text)).map trim
      = (split sep (trim text ++ back)).map trim := (map_trim_split_append hsep hback _).symm
    _ = (split sep (front ++ (trim text ++ back))).map trim :=
        (map_trim_split_prepend hsep hfront _).symm
    _ = (split sep text).map trim := by rw [← htext]

/-- White space behind the separators is trimmed off the pieces again. -/
theorem map_trim_split_join {blank : List Char} (hblank : ∀ c ∈ blank, isBlank c = true)
    {pieces : List (List Char)} (hne : pieces ≠ [])
    (h : ∀ piece ∈ pieces, Trimmed piece ∧ sep ∉ piece) :
    (split sep (join (sep :: blank) pieces)).map trim = pieces := by
  induction pieces using joinInduction with
  | nil => exact absurd rfl hne
  | singleton piece =>
    rw [List.forall_mem_singleton] at h
    rw [join_singleton, split_of_notMem h.2, List.map_singleton, h.1.trim_eq]
  | cons piece rest hrest ih =>
    rw [List.forall_mem_cons] at h
    obtain ⟨⟨htrimmed, hpiece⟩, hothers⟩ := h
    rw [join_cons _ _ hrest, List.append_assoc, List.cons_append, split_append hpiece,
      List.map_cons, htrimmed.trim_eq, map_trim_split_prepend hsep hblank, ih hrest hothers]

end TrimmedPieces

end Shortcuts.Text
