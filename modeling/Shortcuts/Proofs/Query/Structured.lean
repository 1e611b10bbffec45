import Shortcuts.Proofs.Query.Bare
import Shortcuts.Proofs.Query.Lossless
import Shortcuts.Sample

/-!
Structured queries. A country, prefixes, a keyword and arguments can be typed in full, with as
much white space as one likes around the query, behind the space that ends its first word and
around each comma. The parts that have been typed are the parts that are read.
-/
namespace Shortcuts.Query

/-- A text and the white space that it is typed with. -/
structure Spaced where
  front : String
  text : String
  back : String

def Spaced.typed (s : Spaced) : String := s.front ++ s.text ++ s.back

/-- The parts of a query as they are typed. -/
structure Draft where
  front : String
  country : Option String
  prefixes : List String
  keyword : String
  arguments : List Spaced
  back : String

/-- White space only. -/
def Blank (text : String) : Prop := ∀ c ∈ text.toList, Text.isBlank c = true

/-- Neither dots nor white space. -/
def Plain (text : String) : Prop := ∀ c ∈ text.toList, c ≠ '.' ∧ Text.isBlank c = false

instance (text : String) : Decidable (Blank text) := List.decidableBAll _ text.toList

instance (text : String) : Decidable (Plain text) := List.decidableBAll _ text.toList

namespace Draft

/-- `[.country.][prefix.]*keyword` -/
def word (d : Draft) : String :=
  (d.country.elim "" fun code => "." ++ code ++ ".") ++
    d.prefixes.foldr (fun name behind => name ++ "." ++ behind) d.keyword

/-- Without arguments nothing stands behind the first word. -/
def typed (d : Draft) : String :=
  d.front ++ (d.word ++
    (if d.arguments.isEmpty then "" else " " ++ ",".intercalate (d.arguments.map Spaced.typed)) ++
    d.back)

/-- What the draft is meant to say. -/
def query (d : Draft) : Query where
  keyword := d.keyword
  arguments := d.arguments.map Spaced.text
  namespaces := (d.country.map ("." ++ ·)).toList ++ d.prefixes
  language := d.prefixes.find? (·.length = 2)
  country := d.country

structure WellFormed (d : Draft) : Prop where
  country : ∀ code, d.country = some code → code.length = 2 ∧ Plain code
  prefixes : ∀ name ∈ d.prefixes, name ≠ "" ∧ Plain name
  keyword : d.keyword ≠ "" ∧ Plain d.keyword
  arguments : Separated (d.arguments.map fun argument => argument.text.toList)
  spaces : ∀ argument ∈ d.arguments, Blank argument.front ∧ Blank argument.back
  around : Blank d.front ∧ Blank d.back

/-! ## The first word -/

/-- The pieces in front of the keyword. -/
def pieces (d : Draft) : List (List Char) :=
  (d.country.elim [] fun code => [[], code.toList]) ++ d.prefixes.map String.toList

theorem toList_foldr (names : List String) (keyword : String) :
    (names.foldr (fun name behind => name ++ "." ++ behind) keyword).toList =
      Text.join ['.'] (names.map String.toList ++ [keyword.toList]) := by
  induction names with
  | nil => exact (Text.join_singleton _ _).symm
  | cons name rest ih =>
    rw [List.foldr_cons, String.toList_append, String.toList_append, ih, List.map_cons,
      List.cons_append, Text.join_cons _ _ (by simp)]
    rfl

theorem toList_word (d : Draft) :
    d.word.toList = Text.join ['.'] (d.pieces ++ [d.keyword.toList]) := by
  rw [word, pieces, String.toList_append, toList_foldr, List.append_assoc]
  cases d.country with
  | none => rfl
  | some code =>
    simp only [Option.elim_some, List.cons_append, List.nil_append]
    rw [Text.join_cons _ _ (List.cons_ne_nil _ _), Text.join_cons _ _ (by simp)]
    simp

namespace WellFormed

variable {d : Draft} (h : d.WellFormed)

include h

theorem plain_pieces : ∀ piece ∈ d.pieces ++ [d.keyword.toList],
    ∀ c ∈ piece, c ≠ '.' ∧ Text.isBlank c = false := by
  intro piece hpiece
  rcases List.mem_append.1 hpiece with hpiece | hkeyword
  · rcases List.mem_append.1 hpiece with hcountry | hmem
    · cases hd : d.country with
      | none => simp [hd] at hcountry
      | some code =>
        rw [hd, Option.elim_some] at hcountry
        rcases List.mem_cons.1 hcountry with rfl | hcode
        · exact List.forall_mem_nil _
        · rw [List.mem_singleton.1 hcode]
          exact (h.country code hd).2
    · obtain ⟨name, hname, rfl⟩ := List.mem_map.1 hmem
      exact (h.prefixes name hname).2
  · rw [List.mem_singleton.1 hkeyword]
    exact h.keyword.2

theorem split_word : Text.split '.' d.word.toList = d.pieces ++ [d.keyword.toList] := by
  rw [toList_word, Text.split_join (by simp)]
  exact fun piece hpiece hdot => (h.plain_pieces piece hpiece '.' hdot).1 rfl

theorem word_ne_nil : d.word.toList ≠ [] := by
  intro hnil
  have hsplit : [[]] = d.pieces ++ [d.keyword.toList] := by rw [← h.split_word, hnil, Text.split]
  have hlast := congrArg List.getLast? hsplit
  rw [List.getLast?_concat, List.getLast?_singleton, Option.some.injEq] at hlast
  exact h.keyword.1 (String.toList_eq_nil_iff.1 hlast.symm)

theorem blank_word : ∀ c ∈ d.word.toList, Text.isBlank c = false := by
  intro c hc
  rw [toList_word] at hc
  rcases Text.mem_join hc with hdot | ⟨piece, hpiece, hc⟩
  · rw [List.mem_singleton.1 hdot]
    rfl
  · exact (h.plain_pieces piece hpiece c hc).2

theorem countryOf_pieces :
    countryOf d.pieces = (d.country.map String.toList, d.prefixes.map String.toList) := by
  rw [pieces]
  cases hd : d.country with
  | none =>
    refine countryOf_of_head? ?_
    cases hprefixes : d.prefixes with
    | nil => exact nofun
    | cons name rest =>
      have hne := (h.prefixes name (hprefixes ▸ List.mem_cons_self ..)).1
      simpa using hne
  | some code =>
    have hlength : code.toList.length = 2 := (h.country code hd).1
    rw [Option.elim_some, List.cons_append, List.cons_append, List.nil_append, countryOf,
      if_pos hlength]
    rfl

/-! ## The arguments -/

theorem trim_split_arguments (hne : d.arguments ≠ []) :
    (Text.split ',' (Text.join [','] (d.arguments.map (·.typed.toList)))).map Text.trim =
      d.arguments.map (·.text.toList) := by
  have htyped : ∀ argument ∈ d.arguments,
      ',' ∉ argument.typed.toList ∧ Text.trim argument.typed.toList = argument.text.toList := by
    intro argument hmem
    have htext := List.mem_map_of_mem (f := fun argument : Spaced => argument.text.toList) hmem
    obtain ⟨hfront, hback⟩ := h.spaces argument hmem
    rw [Spaced.typed, String.toList_append, String.toList_append, List.append_assoc]
    constructor
    · simp only [List.mem_append, not_or]
      exact ⟨Text.notMem_of_blank rfl hfront, h.arguments.comma _ htext,
        Text.notMem_of_blank rfl hback⟩
    · rw [Text.trim_blank_append hfront, Text.trim_append_blank hback,
        (h.arguments.trimmed _ htext).trim_eq]
  rw [Text.split_join (by simpa using hne), List.map_map]
  · exact List.map_congr_left fun argument hmem => (htyped argument hmem).2
  · intro piece hpiece
    obtain ⟨argument, hmem, rfl⟩ := List.mem_map.1 hpiece
    exact (htyped argument hmem).1

theorem cut_typed :
    ∃ rest, cut d.typed.toList = (d.word.toList, rest) ∧
      argumentsOf rest = d.arguments.map (·.text.toList) := by
  have htyped : ∀ behind : String,
      cut (d.front ++ (d.word ++ behind ++ d.back)).toList = cut (d.word ++ behind).toList := by
    intro behind
    rw [String.toList_append, String.toList_append, cut_blank h.around.1 h.around.2]
  rw [typed, htyped]
  by_cases hnone : d.arguments = []
  · refine ⟨[], ?_, ?_⟩
    · rw [if_pos (List.isEmpty_iff.2 hnone), String.append_empty, cut_word h.blank_word]
    · rw [hnone]
      rfl
  · refine ⟨Text.trim (Text.join [','] (d.arguments.map (·.typed.toList))), ?_,
      h.arguments.argumentsOf_trim (h.trim_split_arguments hnone)⟩
    rw [if_neg (by simpa using hnone), String.toList_append, String.toList_append,
      String.toList_intercalate, List.map_map]
    exact cut_space h.blank_word h.word_ne_nil _

end WellFormed

end Draft

/-- Whatever is typed in the form of a structured query is read as it was meant. -/
theorem parse_typed (d : Draft) (h : d.WellFormed) : parse d.typed = d.query := by
  obtain ⟨rest, hcut, harguments⟩ := h.cut_typed
  have hcountry := h.countryOf_pieces
  have hlength : ((fun name : List Char => decide (name.length = 2)) ∘ String.toList) =
      fun name => decide (name.length = 2) := rfl
  have hname : ∀ code : String, String.ofList ('.' :: code.toList) = "." ++ code := by
    intro code
    rw [← String.toList_inj]
    simp
  rw [parse_eq hcut h.split_word, harguments, namesOf, hcountry, languageOf, List.find?_map,
    hlength]
  cases hd : d.country <;>
    simp [Draft.query, hd, countryNamespace, hname, Function.comp_def]

end Shortcuts.Query

namespace Shortcuts.Sample

/-- Every part, an empty argument at either end, and white space of several kinds. -/
def spacious : Query.Draft where
  front := "\t"
  country := some "gb"
  prefixes := ["o,<", "en", "de"]
  keyword := "w"
  arguments := [⟨" ", "", ""⟩, ⟨"\n", "Big  Ben", "\u2003"⟩, ⟨"", ".é", " "⟩, ⟨"\t", "", ""⟩]
  back := "\r\n"

theorem spacious_read :
    spacious.WellFormed ∧ spacious.typed = "\t.gb.o,<.en.de.w  ,\nBig  Ben\u2003,.é ,\t\r\n" ∧
    Query.parse "\t.gb.o,<.en.de.w  ,\nBig  Ben\u2003,.é ,\t\r\n" =
      ⟨"w", ["", "Big  Ben", ".é", ""], [".gb", "o,<", "en", "de"], some "en", some "gb"⟩ := by
  have hformed : spacious.WellFormed := by
    refine ⟨?_, by decide +kernel, by decide +kernel, by decide +kernel, by decide +kernel,
      by decide +kernel⟩
    rintro code ⟨⟩
    decide +kernel
  have htyped : spacious.typed = "\t.gb.o,<.en.de.w  ,\nBig  Ben\u2003,.é ,\t\r\n" := by
    decide +kernel
  have hread := Query.parse_typed spacious hformed
  rw [htyped] at hread
  exact ⟨hformed, htyped, hread⟩

end Shortcuts.Sample
