import Shortcuts.Proofs.Text.Cutting
import Shortcuts.Query

/-!
The first word of a query and the rest behind it. The word is what stands in front of the first
space of the trimmed query, and the rest is trimmed once more. A text without white space can be
put in front of a query: it belongs to the first word then.
-/
namespace Shortcuts.Query

theorem cut_nil : cut [] = ([], []) := rfl

/-- White space around a query does not count. -/
theorem cut_blank {front back : List Char} (hfront : ∀ c ∈ front, Text.isBlank c = true)
    (hback : ∀ c ∈ back, Text.isBlank c = true) (text : List Char) :
    cut (front ++ (text ++ back)) = cut text := by
  rw [cut, Text.trim_blank_append hfront, Text.trim_append_blank hback]
  rfl

/-- The first word has no space in it, and one stands behind it if anything does. -/
theorem cut_spec (text : List Char) :
    ∃ behind, Text.trim text = (cut text).1 ++ behind ∧ ' ' ∉ (cut text).1 ∧
      (∀ c, behind.head? = some c → c = ' ') ∧ (cut text).2 = Text.trim behind := by
  refine ⟨(Text.trim text).dropWhile (· ≠ ' '), ?_, ?_, ?_, rfl⟩
  · rw [cut, List.takeWhile_append_dropWhile]
  · intro hspace
    have hkept := List.all_eq_true.1 List.all_takeWhile _ hspace
    simp at hkept
  · intro c hc
    have hnot := List.head?_dropWhile_not (fun c => decide (c ≠ ' ')) (Text.trim text)
    rw [hc] at hnot
    simpa using hnot

section Front

variable {front : List Char} (hfront : ∀ c ∈ front, Text.isBlank c = false)

include hfront

theorem trim_append {text : List Char} (h : ∀ c, text.head? = some c → Text.isBlank c = false) :
    Text.trim (front ++ text) = front ++ Text.trim text := by
  have hstart : ∀ c, (front ++ text).head? = some c → Text.isBlank c = false := by
    intro c hc
    cases front with
    | nil => exact h c hc
    | cons d rest => exact hfront c (List.mem_of_mem_head? hc)
  have hstop : ∀ c, front.getLast? = some c → Text.isBlank c = false :=
    fun c hc => hfront c (List.mem_of_getLast? hc)
  rw [Text.trim, Text.trim, Text.trimStart_of_head hstart, Text.trimStart_of_head h,
    Text.trimEnd_append hstop]

theorem ne_space {c : Char} (hc : c ∈ front) : decide (c ≠ ' ') = true := by
  refine decide_eq_true fun hspace => ?_
  have hblank := hfront c hc
  rw [hspace] at hblank
  exact absurd hblank (by decide)

/-- What is put in front of a query goes to its first word. -/
theorem cut_append {text : List Char} (h : ∀ c, text.head? = some c → Text.isBlank c = false) :
    cut (front ++ text) = (front ++ (cut text).1, (cut text).2) := by
  rw [cut, trim_append hfront h, List.takeWhile_append_of_pos fun c hc => ne_space hfront hc,
    List.dropWhile_append_of_pos fun c hc => ne_space hfront hc]
  rfl

theorem cut_word : cut front = (front, []) := by
  have h : cut (front ++ []) = (front ++ (cut []).1, (cut []).2) :=
    cut_append hfront fun c hc => by cases hc
  rwa [cut_nil, List.append_nil] at h

/-- Behind a space everything belongs to the rest. -/
theorem cut_space (hne : front ≠ []) (rest : List Char) :
    cut (front ++ ' ' :: rest) = (front, Text.trim rest) := by
  have hstart : ∀ c, (front ++ ' ' :: rest).head? = some c → Text.isBlank c = false := by
    intro c hc
    obtain ⟨first, others, rfl⟩ := List.exists_cons_of_ne_nil hne
    exact hfront c (List.mem_of_mem_head? hc)
  have hstop : ∀ c, front.getLast? = some c → Text.isBlank c = false :=
    fun c hc => hfront c (List.mem_of_getLast? hc)
  have htrim : Text.trim (front ++ ' ' :: rest) = front ++ Text.trimEnd (' ' :: rest) := by
    rw [Text.trim, Text.trimStart_of_head hstart, Text.trimEnd_append hstop]
  -- what the trimming leaves of the space and the rest starts with the space, if it is not empty
  have hbehind : ∀ c, (Text.trimEnd (' ' :: rest)).head? = some c → c = ' ' := by
    intro c hc
    obtain ⟨back, hback⟩ := Text.isPrefix_trimEnd (' ' :: rest)
    have hhead := congrArg List.head? hback
    rw [List.head?_append, hc] at hhead
    exact Option.some.inj hhead
  have hdone : (Text.trimEnd (' ' :: rest)).takeWhile (· ≠ ' ') = [] ∧
      (Text.trimEnd (' ' :: rest)).dropWhile (· ≠ ' ') = Text.trimEnd (' ' :: rest) := by
    cases hend : Text.trimEnd (' ' :: rest) with
    | nil => exact ⟨rfl, rfl⟩
    | cons c others =>
      obtain rfl := hbehind c (by rw [hend]; rfl)
      exact ⟨rfl, rfl⟩
  rw [cut, htrim, List.takeWhile_append_of_pos fun c hc => ne_space hfront hc,
    List.dropWhile_append_of_pos fun c hc => ne_space hfront hc, hdone.1, hdone.2,
    List.append_nil, Text.trim_trimEnd]
  rfl

end Front

end Shortcuts.Query
