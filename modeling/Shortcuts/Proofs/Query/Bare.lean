import Shortcuts.Proofs.Query.FirstWord

/-!
Queries without prefixes. The arguments that a query is cut into are trimmed and without commas,
and they are never the empty text alone. Such arguments can be written down again: behind a
keyword, a space and with commas between them they are what this text is cut into.
-/
namespace Shortcuts.Query

/-! ## Arguments -/

/-- What the arguments of a query are, and all that they have to be. -/
structure Separated (arguments : List (List Char)) : Prop where
  trimmed : ∀ argument ∈ arguments, Text.Trimmed argument
  comma : ∀ argument ∈ arguments, ',' ∉ argument
  nonempty : arguments ≠ [[]]

theorem separated_iff (arguments : List (List Char)) : Separated arguments ↔
    (∀ argument ∈ arguments, Text.Trimmed argument ∧ ',' ∉ argument) ∧ arguments ≠ [[]] :=
  ⟨fun h => ⟨fun argument hmem => ⟨h.trimmed argument hmem, h.comma argument hmem⟩, h.nonempty⟩,
    fun h => ⟨fun argument hmem => (h.1 argument hmem).1,
      fun argument hmem => (h.1 argument hmem).2, h.2⟩⟩

instance (arguments : List (List Char)) : Decidable (Separated arguments) :=
  decidable_of_iff _ (separated_iff arguments).symm

theorem separated_argumentsOf {text : List Char} (h : Text.Trimmed text) :
    Separated (argumentsOf text) := by
  unfold argumentsOf
  split
  · exact ⟨List.forall_mem_nil _, List.forall_mem_nil _, (List.cons_ne_nil _ _).symm⟩
  · rename_i hempty
    refine ⟨?_, ?_, ?_⟩
    · intro argument hmem
      obtain ⟨piece, -, rfl⟩ := List.mem_map.1 hmem
      exact Text.trimmed_trim piece
    · intro argument hmem hcomma
      obtain ⟨piece, hpiece, rfl⟩ := List.mem_map.1 hmem
      exact Text.notMem_split hpiece ((Text.trim_sublist piece).subset hcomma)
    · intro hsingle
      obtain ⟨piece, hsplit, hblank⟩ := List.map_eq_singleton_iff.1 hsingle
      -- a text without commas is its only piece, and it is trimmed already
      have htext : text = piece := by
        rw [← Text.join_split ',' text, hsplit, Text.join_singleton]
      subst htext
      rw [h.trim_eq] at hblank
      exact hempty (List.isEmpty_iff.2 hblank)

namespace Separated

theorem join_ne_nil {arguments : List (List Char)} (h : Separated arguments)
    (hne : arguments ≠ []) : Text.join [','] arguments ≠ [] := by
  cases arguments with
  | nil => exact absurd rfl hne
  | cons first rest =>
    cases rest with
    | nil =>
      rw [Text.join_singleton]
      exact fun hfirst => h.nonempty (hfirst ▸ rfl)
    | cons second rest =>
      rw [Text.join_cons _ _ (List.cons_ne_nil second rest)]
      simp

theorem argumentsOf_join {arguments : List (List Char)} (h : Separated arguments) :
    argumentsOf (Text.join [','] arguments) = arguments := by
  by_cases hne : arguments = []
  · subst hne
    rfl
  · have hjoin : (Text.join [','] arguments).isEmpty = false := by
      simpa using h.join_ne_nil hne
    have hpieces : arguments.map Text.trim = arguments :=
      (List.map_congr_left fun argument hmem => (h.trimmed argument hmem).trim_eq).trans
        (List.map_id' arguments)
    rw [argumentsOf, hjoin, Text.split_join hne h.comma, hpieces]
    rfl

/-- White space around the arguments does not count, however they are kept apart. -/
theorem argumentsOf_trim {arguments : List (List Char)} (h : Separated arguments) {text : List Char}
    (hpieces : (Text.split ',' text).map Text.trim = arguments) :
    argumentsOf (Text.trim text) = arguments := by
  have htrimmed : (Text.split ',' (Text.trim text)).map Text.trim = arguments := by
    rw [Text.map_trim_split_trim rfl, hpieces]
  -- only the empty argument alone would leave nothing to cut
  have hne : Text.trim text ≠ [] := by
    intro hempty
    rw [hempty] at htrimmed
    exact h.nonempty htrimmed.symm
  rw [argumentsOf, if_neg (by simpa using hne), htrimmed]

end Separated

theorem trimmed_join {pieces : List (List Char)} (h : ∀ piece ∈ pieces, Text.Trimmed piece) :
    Text.Trimmed (Text.join [','] pieces) := by
  induction pieces using Text.joinInduction with
  | nil => exact Text.trimmed_of_forall (List.forall_mem_nil _)
  | singleton piece =>
    rw [Text.join_singleton]
    exact h piece (List.mem_singleton_self piece)
  | cons piece rest hrest ih =>
    rw [List.forall_mem_cons] at h
    rw [Text.join_cons _ _ hrest, List.append_assoc]
    exact h.1.append_cons rfl (ih h.2)

/-! ## Writing a query -/

/-- The query as it is typed without prefixes. -/
def bare (q : Query) : String :=
  if q.arguments.isEmpty then q.keyword
  else q.keyword ++ " " ++ ",".intercalate q.arguments

theorem dot_notMem_keyword (text : String) : '.' ∉ (parse text).keyword.toList := by
  intro hdot
  rw [parse, String.toList_ofList] at hdot
  have hlast : (Text.split '.' (cut text.toList).1).getLastD [] ∈
      [] :: Text.split '.' (cut text.toList).1 := List.getLastD_mem_cons
  rcases List.mem_cons.1 hlast with hnil | hpiece
  · rw [hnil] at hdot
    cases hdot
  · exact Text.notMem_split hpiece hdot

theorem separated_arguments (text : String) :
    Separated ((parse text).arguments.map String.toList) := by
  have harguments : (parse text).arguments.map String.toList =
      argumentsOf (cut text.toList).2 := by
    simp [parse, Function.comp_def]
  rw [harguments]
  exact separated_argumentsOf (Text.trimmed_trim _)

section Bare

variable {q : Query} (hne : q.keyword ≠ "")
  (hblank : ∀ c ∈ q.keyword.toList, Text.isBlank c = false)
  (harguments : Separated (q.arguments.map String.toList))

include hne hblank harguments

theorem cut_bare : cut q.bare.toList =
    (q.keyword.toList, Text.join [','] (q.arguments.map String.toList)) := by
  unfold bare
  split
  · rename_i hempty
    rw [List.isEmpty_iff.1 hempty]
    exact cut_word hblank
  · have htrimmed : Text.Trimmed (Text.join [','] (q.arguments.map String.toList)) :=
      trimmed_join harguments.trimmed
    have hcut := cut_space hblank (by simpa using hne)
      (Text.join [','] (q.arguments.map String.toList))
    rw [htrimmed.trim_eq] at hcut
    rw [String.toList_append, String.toList_append, String.toList_intercalate, List.append_assoc]
    exact hcut

/-- A keyword without white space and dots can be typed with such arguments. -/
theorem parse_bare (hdot : '.' ∉ q.keyword.toList) :
    parse q.bare = ⟨q.keyword, q.arguments, [], none, none⟩ := by
  have hback : (q.arguments.map String.toList).map String.ofList = q.arguments := by
    simp [Function.comp_def]
  rw [parse, cut_bare hne hblank harguments]
  dsimp only
  rw [Text.split_of_notMem hdot, harguments.argumentsOf_join, hback]
  simp [countryOf, languageOf]

end Bare

end Shortcuts.Query
