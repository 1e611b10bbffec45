import Shortcuts.Proofs.Text.Replacing
import Shortcuts.Template.Variable

/-!
Replacements that do not meet. Where each word is a run of a letter of its own and the values have
none of these letters, a replacement neither makes nor breaks an occurrence of another word. So
all of them together act on a text as one scan from left to right, and nothing that has been put
in is replaced.
-/
namespace Shortcuts.Template

/-- Words with values for them. Each word is a run of a letter of its own, and each value is a text
without these letters. -/
structure Legend (parts : List (List Char × List Char)) : Prop where
  runs : ∀ part ∈ parts, ∃ letter n, part.1 = List.replicate (n + 1) letter
  apart : parts.Pairwise fun part other => part.1.Disjoint other.1
  letterless : ∀ part ∈ parts, ∀ other ∈ parts, part.1.Disjoint other.2
  value_ne_nil : ∀ part ∈ parts, part.2 ≠ []

theorem putIn_nil (parts : List (List Char × List Char)) : putIn parts [] = [] := by
  induction parts with
  | nil => rfl
  | cons part parts ih => exact ih

theorem putIn_cons (part : List Char × List Char) (parts : List (List Char × List Char))
    (format : List Char) :
    putIn (part :: parts) format = putIn parts (Text.replace part.1 part.2 format) := rfl

namespace Legend

variable {parts order : List (List Char × List Char)} {part : List Char × List Char}

theorem perm (h : Legend parts) (hperm : order.Perm parts) : Legend order where
  runs part hpart := h.runs part (hperm.subset hpart)
  apart := (hperm.pairwise_iff List.disjoint_symm).2 h.apart
  letterless part hpart other hother :=
    h.letterless part (hperm.subset hpart) other (hperm.subset hother)
  value_ne_nil part hpart := h.value_ne_nil part (hperm.subset hpart)

theorem of_cons (h : Legend (part :: parts)) : Legend parts where
  runs other hother := h.runs other (List.mem_cons_of_mem part hother)
  apart := (List.pairwise_cons.1 h.apart).2
  letterless first hfirst other hother :=
    h.letterless first (List.mem_cons_of_mem part hfirst) other (List.mem_cons_of_mem part hother)
  value_ne_nil other hother := h.value_ne_nil other (List.mem_cons_of_mem part hother)

theorem word_ne_nil (h : Legend parts) (hpart : part ∈ parts) : part.1 ≠ [] := by
  obtain ⟨letter, n, hword⟩ := h.runs part hpart
  rw [hword, List.replicate_succ]
  exact List.cons_ne_nil _ _

theorem putIn_append_of_disjoint (h : Legend parts) {text : List Char}
    (htext : ∀ part ∈ parts, part.1.Disjoint text) (rest : List Char) :
    putIn parts (text ++ rest) = text ++ putIn parts rest := by
  induction parts generalizing rest with
  | nil => rfl
  | cons part parts ih =>
    have hpart := List.mem_cons_self (a := part) (l := parts)
    rw [putIn_cons, putIn_cons, Text.replace_append_of_disjoint part.2 (h.word_ne_nil hpart)
      (htext part hpart), ih h.of_cons fun other hother =>
        htext other (List.mem_cons_of_mem part hother)]

/-- A part in front is replaced as a whole: the others pass over its word before that and over its
value from then on. -/
theorem putIn_word_append (h : Legend parts) (hpart : part ∈ parts) (rest : List Char) :
    putIn parts (part.1 ++ rest) = part.2 ++ putIn parts rest := by
  induction parts generalizing rest with
  | nil => cases hpart
  | cons first parts ih =>
    have hfirst := List.mem_cons_self (a := first) (l := parts)
    rw [putIn_cons, putIn_cons]
    rcases List.mem_cons.1 hpart with rfl | hlater
    · rw [Text.replace_word_append part.2 (h.word_ne_nil hfirst)]
      exact h.of_cons.putIn_append_of_disjoint (fun other hother =>
        h.letterless other (List.mem_cons_of_mem part hother) part hfirst) _
    · have hapart : first.1.Disjoint part.1 := (List.pairwise_cons.1 h.apart).1 part hlater
      rw [Text.replace_append_of_disjoint first.2 (h.word_ne_nil hfirst) hapart,
        ih h.of_cons hlater]

/-- A character at which no part starts is kept: the replacements behind it let no part start
there that did not before. -/
theorem putIn_cons_of_forall (h : Legend parts) {c : Char} {rest : List Char}
    (hnone : ∀ part ∈ parts, ¬ part.1 <+: c :: rest) :
    putIn parts (c :: rest) = c :: putIn parts rest := by
  induction parts generalizing rest with
  | nil => rfl
  | cons first parts ih =>
    have hfirst := List.mem_cons_self (a := first) (l := parts)
    have hkept := Text.replace_cons first.2 (hnone first hfirst)
    rw [putIn_cons, putIn_cons, hkept]
    refine ih h.of_cons fun part hpart hprefix => ?_
    have hpart := List.mem_cons_of_mem first hpart
    obtain ⟨letter, n, hword⟩ := h.runs part hpart
    have hletter : letter ∉ first.2 := by
      apply h.letterless part hpart first hfirst
      rw [hword, List.replicate_succ]
      exact List.mem_cons_self ..
    -- The first replacement has put nothing of this letter in, so a run that starts here behind it
    -- has started here before.
    apply hnone part hpart
    rw [hword] at hprefix ⊢
    rw [← hkept] at hprefix
    exact Text.prefix_of_prefix_replace (h.value_ne_nil first hfirst) hletter hprefix

end Legend

/-! ## What has been put in -/

/-- `putIn` on a text whose characters carry where they come from. -/
def putInTraced (parts : List (List Char × List Char)) (text : List Text.Traced) :
    List Text.Traced :=
  parts.foldl (fun text part => Text.replaceTraced part.1 part.2 text) text

theorem plain_putInTraced (parts : List (List Char × List Char)) (text : List Text.Traced) :
    Text.plain (putInTraced parts text) = putIn parts (Text.plain text) := by
  induction parts generalizing text with
  | nil => rfl
  | cons part parts ih =>
    rw [putIn_cons, ← Text.plain_replaceTraced]
    exact ih _

/-- What has not been put in stands in the order in which the text had it. -/
theorem kept_putInTraced_sublist (parts : List (List Char × List Char))
    (text : List Text.Traced) : (Text.kept (putInTraced parts text)).Sublist (Text.kept text) := by
  induction parts generalizing text with
  | nil => exact List.Sublist.refl _
  | cons part parts ih =>
    exact (ih _).trans (Text.kept_replaceTracedFrom_sublist part.1 part.2 0 text)

theorem mem_putInTraced {parts : List (List Char × List Char)} {text : List Text.Traced}
    {t : Text.Traced} (h : t ∈ putInTraced parts text) :
    t ∈ text ∨ ∃ part ∈ parts, t.char ∈ part.2 := by
  induction parts generalizing text with
  | nil => exact .inl h
  | cons part parts ih =>
    rcases ih h with hreplaced | ⟨other, hother, hvalue⟩
    · exact (Text.mem_replaceTracedFrom hreplaced).imp_right fun hvalue =>
        ⟨part, List.mem_cons_self .., hvalue⟩
    · exact .inr ⟨other, List.mem_cons_of_mem part hother, hvalue⟩

/-- Wherever one of the parts stands in the text, nothing of it has been put in. -/
def Genuine (parts : List (List Char × List Char)) (text : List Text.Traced) : Prop :=
  ∀ part ∈ parts, ∀ span, span <:+: text → Text.plain span = part.1 → ∀ t ∈ span, t.putIn = false

theorem Legend.genuine {parts made : List (List Char × List Char)} (h : Legend parts)
    (hmade : made ⊆ parts) (format : List Char) :
    Genuine parts (putInTraced made (Text.given format)) := by
  intro part hpart span hspan hword t ht
  rcases mem_putInTraced (hspan.subset ht) with hgiven | ⟨other, hother, hvalue⟩
  · exact Text.putIn_of_mem_given hgiven
  · have hletter : t.char ∈ part.1 := hword ▸ List.mem_map.2 ⟨t, ht, rfl⟩
    exact absurd hvalue (h.letterless part hpart other (hmade hother) hletter)

end Shortcuts.Template
