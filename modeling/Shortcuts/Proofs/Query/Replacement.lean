import Shortcuts.Proofs.Query.Bare
import Shortcuts.Proofs.Query.Lossless
import Shortcuts.Proofs.Template.Layout

/-!
Replacement queries. A template of a word and of slots with commas between them takes exactly as
many arguments as it has slots, and the query it becomes is read with the same arguments again,
and with whatever the word alone is read with.
-/
namespace Shortcuts

namespace Template

/-! ## Slots with commas between them -/

/-- Slots of a template, each but the last with a comma and a space behind it. -/
def listed (names : List (List Char)) : List Piece :=
  List.intercalate [.char ',', .char ' '] (names.map fun inner => [.slot inner])

theorem listed_singleton (inner : List Char) : listed [inner] = [.slot inner] := rfl

theorem listed_cons (inner : List Char) {rest : List (List Char)} (h : rest ≠ []) :
    listed (inner :: rest) = .slot inner :: .char ',' :: .char ' ' :: listed rest := by
  rw [listed, List.map_cons, List.intercalate_cons_of_ne_nil (by simpa using h)]
  rfl

theorem render_listed (names : List (List Char)) :
    render angle (listed names) = Text.join [',', ' '] (names.map angle.text) := by
  induction names using Text.joinInduction with
  | nil => rfl
  | singleton inner =>
    rw [listed_singleton, List.map_singleton, Text.join_singleton, render_cons, render_nil,
      List.append_nil]
    rfl
  | cons inner rest hrest ih =>
    rw [listed_cons inner hrest, List.map_cons, Text.join_cons _ _ (by simpa using hrest), ← ih]
    simp [Piece.text]

theorem scanned_listed {names : List (List Char)} (h : ∀ inner ∈ names, angle.Inner inner) :
    Scanned angle (listed names) := by
  induction names using Text.joinInduction with
  | nil => exact .nil
  | singleton inner => exact .slot (h inner (List.mem_singleton_self inner)) .nil
  | cons inner rest hrest ih =>
    rw [List.forall_mem_cons] at h
    have hbetween : '<' ∉ [',', ' '] := by decide
    rw [listed_cons inner hrest]
    exact .slot h.1 (.chars_append rfl hbetween (ih h.2))

theorem countP_listed (names : List (List Char)) :
    ((listed names).map Piece.slotPart).countP isHole = names.length := by
  induction names using Text.joinInduction with
  | nil => rfl
  | singleton inner => rfl
  | cons inner rest hrest ih =>
    have hbetween := countP_chars_append [',', ' '] (listed rest)
    rw [listed_cons inner hrest, List.map_cons, List.countP_cons_of_pos rfl, List.length_cons,
      ← ih, ← hbetween]
    rfl

/-- Values for all slots have the same separators between them. -/
theorem fill_listed {names values : List (List Char)} (h : names.length = values.length) :
    fill ((listed names).map Piece.slotPart) values = Text.join [',', ' '] values := by
  induction names using Text.joinInduction generalizing values with
  | nil =>
    rw [List.eq_nil_of_length_eq_zero h.symm]
    rfl
  | singleton inner =>
    obtain ⟨value, rfl⟩ := List.length_eq_one_iff.1 h.symm
    rw [Text.join_singleton]
    exact List.append_nil value
  | cons inner rest hrest ih =>
    obtain ⟨value, others, rfl⟩ := List.exists_cons_of_length_eq_add_one h.symm
    have hlength : rest.length = others.length := by simpa using h
    have hothers : others ≠ [] := by
      rintro rfl
      exact hrest (List.eq_nil_of_length_eq_zero hlength)
    have hbetween := fill_chars_append [',', ' '] (listed rest) others
    rw [ih hlength] at hbetween
    rw [listed_cons inner hrest, Text.join_cons _ _ hothers, List.append_assoc, ← hbetween]
    rfl

end Template

namespace Query

/-! ## Arguments with commas and spaces between them -/

theorem Separated.argumentsOf_trim_join {arguments : List (List Char)} (h : Separated arguments) :
    argumentsOf (Text.trim (Text.join [',', ' '] arguments)) = arguments := by
  by_cases hne : arguments = []
  · subst hne
    rfl
  · refine h.argumentsOf_trim ?_
    exact Text.map_trim_split_join rfl (List.forall_mem_singleton.2 rfl) hne
      fun argument hmem => ⟨h.trimmed argument hmem, h.comma argument hmem⟩

/-- Behind a word and a space such arguments are read again, and the word is read as it is when
nothing stands behind it. -/
theorem parse_listed {word : String} {arguments : List String} (hne : word ≠ "")
    (hword : ∀ c ∈ word.toList, Text.isBlank c = false)
    (harguments : Separated (arguments.map String.toList)) :
    parse (word ++ " " ++ ", ".intercalate arguments) =
      { parse word with arguments := arguments } := by
  have hcut : cut (word ++ " " ++ ", ".intercalate arguments).toList =
      (word.toList, Text.trim (Text.join [',', ' '] (arguments.map String.toList))) := by
    rw [String.toList_append, String.toList_append, String.toList_intercalate, List.append_assoc]
    exact cut_space hword (by simpa using hne) _
  obtain ⟨front, last, hsplit⟩ := Text.exists_split_concat '.' word.toList
  rw [parse_eq hcut hsplit, parse_eq (cut_word hword) hsplit, harguments.argumentsOf_trim_join]
  simp [Function.comp_def]

/-! ## Replacement templates -/

/-- The template that replaces a query by a word and one slot for each argument. -/
def replacement (word : String) (names : List String) : String :=
  word ++ " " ++ ", ".intercalate (names.map fun name => "<" ++ name ++ ">")

section Replacement

variable {word : String} {names : List String} (hword : '<' ∉ word.toList)
  (hnames : ∀ name ∈ names, name ≠ "" ∧ '>' ∉ name.toList)

include hword hnames

theorem pieces_replacement :
    Template.pieces Template.angle (replacement word names).toList =
      (word.toList ++ [' ']).map .char ++ Template.listed (names.map String.toList) := by
  have hinner : ∀ inner ∈ names.map String.toList, Template.angle.Inner inner := by
    intro inner hmem
    obtain ⟨name, hname, rfl⟩ := List.mem_map.1 hmem
    exact ⟨by simpa using (hnames name hname).1, (hnames name hname).2⟩
  have hfront : '<' ∉ word.toList ++ [' '] := by simpa using hword
  have hscanned := (Template.scanned_listed hinner).chars_append rfl hfront
  have hslots : (names.map fun name => "<" ++ name ++ ">").map String.toList =
      (names.map String.toList).map Template.angle.text := by
    rw [List.map_map, List.map_map]
    apply List.map_congr_left
    intro name _
    simp [Template.Marks.text, Template.angle]
  have htext : (replacement word names).toList = Template.render Template.angle
      ((word.toList ++ [' ']).map .char ++ Template.listed (names.map String.toList)) := by
    rw [replacement, String.toList_append, String.toList_append, String.toList_intercalate, hslots,
      Template.render_append, Template.render_chars, Template.render_listed]
    rfl
  rw [htext, hscanned.pieces_render]

/-- One argument for each slot is written out behind the word, and any other number fails. -/
theorem fillQuery_replacement (arguments : List String) :
    Template.fillQuery (replacement word names) arguments =
      if names.length = arguments.length then .ok (word ++ " " ++ ", ".intercalate arguments)
      else .error (.alternativeArgumentMismatch names.length arguments.length) := by
  rw [Template.fillQuery_eq, pieces_replacement hword hnames]
  simp only [Template.countP_chars_append, Template.countP_listed, List.length_map]
  split
  · rename_i hlength
    have hvalues : (names.map String.toList).length = (arguments.map String.toList).length := by
      rw [List.length_map, List.length_map, hlength]
    rw [Template.fill_chars_append, Template.fill_listed hvalues, Except.ok.injEq,
      ← String.toList_inj]
    simp [Text.join]
  · rfl

end Replacement

/-- A replacement query is read with the arguments of the query that it replaces, whatever they
contain, and otherwise like its word alone. It fails exactly if it has too few or too many slots. -/
theorem fillQuery_reparses (text word : String) (names : List String) (hne : word ≠ "")
    (hword : ∀ c ∈ word.toList, Text.isBlank c = false ∧ c ≠ '<')
    (hnames : ∀ name ∈ names, name ≠ "" ∧ '>' ∉ name.toList) :
    (Template.fillQuery (replacement word names) (parse text).arguments =
      .error (.alternativeArgumentMismatch names.length (parse text).arguments.length) ↔
        names.length ≠ (parse text).arguments.length) ∧
    (names.length = (parse text).arguments.length →
      ∃ query, Template.fillQuery (replacement word names) (parse text).arguments = .ok query ∧
        parse query = { parse word with arguments := (parse text).arguments }) := by
  have hbracket : '<' ∉ word.toList := fun hmem => (hword '<' hmem).2 rfl
  have hblank : ∀ c ∈ word.toList, Text.isBlank c = false := fun c hc => (hword c hc).1
  rw [fillQuery_replacement hbracket hnames]
  constructor
  · split
    · rename_i hlength
      exact ⟨nofun, fun hother => absurd hlength hother⟩
    · rename_i hlength
      exact ⟨fun _ => hlength, fun _ => rfl⟩
  · intro hlength
    rw [if_pos hlength]
    exact ⟨_, rfl, parse_listed hne hblank (separated_arguments text)⟩

end Query

namespace Sample

/-- Brackets, dots and white space in the arguments, and an empty one at the end. -/
def spread : String := "x <a>, $b . c , "

theorem spread_reparses :
    Template.fillQuery (Query.replacement ".gb.en.w" ["von <", " nach", "um"])
        (Query.parse spread).arguments = .ok ".gb.en.w <a>, $b . c, " ∧
    Query.parse ".gb.en.w <a>, $b . c, " =
      ⟨"w", ["<a>", "$b . c", ""], [".gb", "en"], some "en", some "gb"⟩ ∧
    Template.fillQuery (Query.replacement "w" ["q"]) (Query.parse spread).arguments =
      .error (.alternativeArgumentMismatch 1 3) := by
  have harguments : (Query.parse spread).arguments = ["<a>", "$b . c", ""] := by decide +kernel
  have hword : Query.parse ".gb.en.w" = ⟨"w", [], [".gb", "en"], some "en", some "gb"⟩ := by
    decide +kernel
  have hshort : ∀ c ∈ "w".toList, Text.isBlank c = false ∧ c ≠ '<' := by simp [Text.isBlank]
  have hlong : ∀ c ∈ ".gb.en.w".toList, Text.isBlank c = false ∧ c ≠ '<' := by simp [Text.isBlank]
  have hfew := (Query.fillQuery_reparses spread "w" ["q"] (by decide) hshort (by decide)).1
  have hall := (Query.fillQuery_reparses spread ".gb.en.w" ["von <", " nach", "um"] (by decide)
    hlong (by decide)).2
  rw [harguments] at hfew hall ⊢
  obtain ⟨query, hquery, hparse⟩ := hall rfl
  have hfilled : Template.fillQuery (Query.replacement ".gb.en.w" ["von <", " nach", "um"])
      ["<a>", "$b . c", ""] = .ok ".gb.en.w <a>, $b . c, " := by decide +kernel
  obtain rfl := Except.ok.inj (hfilled.symm.trans hquery)
  rw [hword] at hparse
  exact ⟨hfilled, hparse, hfew.2 (by decide)⟩

end Sample

end Shortcuts
