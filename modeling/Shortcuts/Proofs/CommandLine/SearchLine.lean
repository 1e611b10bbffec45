import Shortcuts.CommandLine.Run
import Shortcuts.Proofs.Query.Replacement
import Shortcuts.Proofs.Template.Names
import Shortcuts.Sample

/-!
Lines of a search, read back. A line splits at its tabs into the search key, the names of the
arguments, the title and the url. The names stand in slots of their own, so a scan finds them
again, whatever characters they share with what stands between them.
-/
namespace Shortcuts

namespace Template

theorem filterMap_inner?_listed (names : List (List Char)) :
    (listed names).filterMap Piece.inner? = names := by
  induction names using Text.joinInduction with
  | nil => rfl
  | singleton inner => rfl
  | cons inner rest hrest ih =>
    have hbetween := filterMap_inner?_chars [',', ' '] (listed rest)
    rw [ih] at hbetween
    rw [listed_cons inner hrest]
    exact congrArg (inner :: ·) hbetween

/-- The scan of a list of names finds nothing but these names. -/
theorem map_name?_join {names : List (List Char)} (h : ∀ name ∈ names, IsName name) :
    (placeholders (Text.join [',', ' '] (names.map angle.text))).map Placeholder.name? =
      names.map some := by
  have hscanned : Scanned angle (listed names) :=
    scanned_listed fun name hname => (h name hname).inner
  have hnames := map_name?_placeholders hscanned
  rw [filterMap_inner?_listed, render_listed] at hnames
  exact hnames fun name hname => (h name hname).notVariable

end Template

namespace CommandLine

open Template

/-- A text that ends neither its field nor its line. -/
structure IsField (text : List Char) : Prop where
  tab : '\t' ∉ text
  newline : '\n' ∉ text

theorem isField_getD {text : Option String} (h : ∀ t, text = some t → IsField t.toList) :
    IsField (text.getD "").toList := by
  cases text with
  | none => exact ⟨by decide, by decide⟩
  | some t => exact h t rfl

/-- The second field of a line. -/
def namesField (template : List Char) : List Char :=
  Text.join [',', ' '] ((argumentNames template).map angle.text)

/-- Names have no characters but those of the url, and neither has what is written around them. -/
theorem notMem_namesField {c : Char} {template : List Char} (h : c ∉ template)
    (hmarks : c ∉ ['<', '>', ',', ' ']) : c ∉ namesField template := by
  intro hmem
  rcases Text.mem_join hmem with hbetween | ⟨text, htext, hc⟩
  · apply hmarks
    rw [List.mem_cons, List.mem_singleton] at hbetween
    rcases hbetween with rfl | rfl <;> simp
  · obtain ⟨name, hname, rfl⟩ := List.mem_map.1 htext
    have hname : c ∉ name := fun hin => h (subset_of_mem_argumentNames hname hin)
    simp only [Marks.text, angle, List.mem_append, List.mem_singleton] at hc
    rcases hc with (rfl | hc) | rfl
    · exact hmarks (by simp)
    · exact hname hc
    · exact hmarks (by simp)

theorem isField_namesField {template : List Char} (h : IsField template) :
    IsField (namesField template) :=
  ⟨notMem_namesField h.tab (by decide), notMem_namesField h.newline (by decide)⟩

theorem toList_searchLine (key : String) (s : Shortcut) :
    (searchLine key s).toList = Text.join ['\t'] [key.toList,
      namesField (s.url.getD "").toList, (s.title.getD "").toList, (s.url.getD "").toList] := by
  rw [searchLine, String.toList_intercalate]
  simp [namesField, Text.join]

/-- A line is cut at its tabs into four fields, of which the scan of the second finds the names of
the arguments one by one and nothing else, and it is a single line. -/
theorem searchLine_reads_back (key : String) (s : Shortcut) (hkey : IsField key.toList)
    (htitle : ∀ title, s.title = some title → IsField title.toList)
    (hurl : ∀ url, s.url = some url → IsField url.toList) :
    ∃ names,
      Text.split '\t' (searchLine key s).toList =
        [key.toList, names, (s.title.getD "").toList, (s.url.getD "").toList] ∧
      (placeholders names).map Placeholder.name? =
        (argumentNames (s.url.getD "").toList).map some ∧
      argumentNames names = argumentNames (s.url.getD "").toList ∧
      '\n' ∉ (searchLine key s).toList := by
  have hnames := isField_namesField (isField_getD hurl)
  have hfields : ∀ field ∈ [key.toList, namesField (s.url.getD "").toList,
      (s.title.getD "").toList, (s.url.getD "").toList], IsField field := by
    simp only [List.forall_mem_cons]
    exact ⟨hkey, hnames, isField_getD htitle, isField_getD hurl, List.forall_mem_nil _⟩
  have hscan : (placeholders (namesField (s.url.getD "").toList)).map Placeholder.name? =
      (argumentNames (s.url.getD "").toList).map some :=
    map_name?_join fun name hname => (exists_of_mem_argumentNames hname).1
  refine ⟨namesField (s.url.getD "").toList, ?_, hscan, argumentNames_of_map_name? hscan, ?_⟩
  · rw [toList_searchLine]
    exact Text.split_join (List.cons_ne_nil _ _) fun field hfield => (hfields field hfield).tab
  · rw [toList_searchLine]
    intro hmem
    rcases Text.mem_join hmem with htab | ⟨field, hfield, hnewline⟩
    · exact absurd htab (by decide)
    · exact (hfields field hfield).newline hnewline

end CommandLine

namespace Sample

/-- A url with a variable, with brackets that open nothing, and with names that hold brackets,
commas and spaces, one of them twice. -/
def crowded : Shortcut :=
  .ofUrl "https://x.example/<$language>/<a<b>?c=<, >&d=<a<b>&e=<>&<"

theorem crowded_reads_back :
    CommandLine.IsField "crowd 3".toList ∧
    ∃ names, Text.split '\t' (CommandLine.searchLine "crowd 3" crowded).toList =
        ["crowd 3".toList, names, [], (crowded.url.getD "").toList] ∧
      Template.argumentNames names = ["a<b".toList, ", ".toList, "a<b".toList] := by
  have hkey : CommandLine.IsField "crowd 3".toList := ⟨by decide, by decide⟩
  have hurl : ∀ url, crowded.url = some url → CommandLine.IsField url.toList := by
    intro url hurl
    obtain rfl := Option.some.inj hurl
    exact ⟨by decide, by decide⟩
  have hnames : Template.argumentNames (crowded.url.getD "").toList =
      ["a<b".toList, ", ".toList, "a<b".toList] := by decide +kernel
  obtain ⟨names, hsplit, _, hscan, _⟩ :=
    CommandLine.searchLine_reads_back "crowd 3" crowded hkey nofun hurl
  exact ⟨hkey, names, hsplit, hscan.trans hnames⟩

end Sample

end Shortcuts
