import Shortcuts.Proofs.Template.Layout
import Shortcuts.Proofs.Template.Names

/-!
Two notations of one layout. Slots that are written in some marks are found by a scan for these
marks as long as no text between them has the character that opens a slot. So rewriting a layout
from the short notation gives it in the full one, slot by slot.
-/
namespace Shortcuts.Template

theorem render_flatMap {α : Type} (m : Marks) (f : α → List Piece) (xs : List α) :
    render m (xs.flatMap f) = xs.flatMap fun x => render m (f x) :=
  List.flatMap_assoc

namespace Layout

/-- The layout with its slots in some marks. -/
def textIn (m : Marks) (l : Layout) : List Char :=
  l.before ++ l.slots.flatMap fun slot => m.text slot.1 ++ slot.2

def names (l : Layout) : List (List Char) := l.slots.map Prod.fst

/-- The texts between the slots. -/
def texts (l : Layout) : List (List Char) := l.before :: l.slots.map Prod.snd

/-- Nothing in the layout but its slots can be taken for one, and each slot for itself only. -/
structure Clear (m : Marks) (l : Layout) : Prop where
  texts : ∀ text ∈ l.texts, ∀ c ∈ text, m.opening.head? ≠ some c
  names : ∀ name ∈ l.names, m.Inner name

theorem clear_iff (m : Marks) (l : Layout) : l.Clear m ↔
    (l.texts.all fun text => text.all fun c => m.opening.head? ≠ some c) ∧
      l.names.all fun name => m.Inner name := by
  simp only [List.all_eq_true, decide_eq_true_eq]
  exact ⟨fun h => ⟨h.texts, h.names⟩, fun h => ⟨h.1, h.2⟩⟩

instance (m : Marks) (l : Layout) : Decidable (l.Clear m) :=
  decidable_of_iff _ (clear_iff m l).symm

/-- The pieces that the layout was made of. -/
def pieces (l : Layout) : List Piece :=
  l.before.map .char ++ l.slots.flatMap fun slot => .slot slot.1 :: slot.2.map .char

theorem render_pieces (m : Marks) (l : Layout) : render m l.pieces = l.textIn m := by
  rw [pieces, render_append, render_chars, render_flatMap]
  have hslot : ∀ slot : List Char × List Char,
      render m (.slot slot.1 :: slot.2.map .char) = m.text slot.1 ++ slot.2 := by
    intro slot
    rw [render_cons, render_chars]
    rfl
  simp only [hslot]
  rfl

theorem filterMap_inner?_pieces (l : Layout) : l.pieces.filterMap Piece.inner? = l.names := by
  obtain ⟨before, slots⟩ := l
  rw [pieces, filterMap_inner?_chars]
  induction slots with
  | nil => rfl
  | cons slot rest ih =>
    have hbehind := filterMap_inner?_chars slot.2
      (rest.flatMap fun slot => .slot slot.1 :: slot.2.map .char)
    rw [ih] at hbehind
    rw [List.flatMap_cons, List.cons_append]
    exact congrArg (slot.1 :: ·) hbehind

variable {m : Marks} {l : Layout}

theorem scanned_slots {o : Char} (hopen : m.opening.head? = some o)
    {slots : List (List Char × List Char)}
    (h : ∀ slot ∈ slots, m.Inner slot.1 ∧ o ∉ slot.2) :
    Scanned m (slots.flatMap fun slot => .slot slot.1 :: slot.2.map .char) := by
  induction slots with
  | nil => exact .nil
  | cons slot rest ih =>
    rw [List.forall_mem_cons] at h
    obtain ⟨⟨hinner, hbehind⟩, hrest⟩ := h
    rw [List.flatMap_cons, List.cons_append]
    exact .slot hinner ((ih hrest).chars_append hopen hbehind)

theorem Clear.scanned (hopen : m.opening ≠ []) (h : l.Clear m) : Scanned m l.pieces := by
  obtain ⟨o, others, ho⟩ := List.exists_cons_of_ne_nil hopen
  have hhead : m.opening.head? = some o := by rw [ho, List.head?_cons]
  have hclear : ∀ text ∈ l.texts, o ∉ text :=
    fun text htext hmem => h.texts text htext o hmem hhead
  have hslots : ∀ slot ∈ l.slots, m.Inner slot.1 ∧ o ∉ slot.2 := by
    intro slot hslot
    have hname : slot.1 ∈ l.names := List.mem_map.2 ⟨slot, hslot, rfl⟩
    have htext : slot.2 ∈ l.texts := List.mem_cons_of_mem _ (List.mem_map.2 ⟨slot, hslot, rfl⟩)
    exact ⟨h.names slot.1 hname, hclear slot.2 htext⟩
  exact (scanned_slots hhead hslots).chars_append hhead (hclear l.before (List.mem_cons_self ..))

theorem Clear.pieces_textIn (hopen : m.opening ≠ []) (h : l.Clear m) :
    Template.pieces m (l.textIn m) = l.pieces := by
  rw [← render_pieces, (h.scanned hopen).pieces_render]

/-- The marks of a clear layout can be changed. -/
theorem Clear.rewriteSlots_textIn (hopen : m.opening ≠ []) (h : l.Clear m) (new : Marks) :
    rewriteSlots m new (l.textIn m) = l.textIn new := by
  rw [rewriteSlots, h.pieces_textIn hopen, ← render_pieces]
  rfl

theorem Clear.ofShort_textIn (h : l.Clear short) :
    ofShort (String.ofList (l.textIn short)) = String.ofList (l.textIn angle) := by
  have hrewrite := h.rewriteSlots_textIn (by decide) angle
  rw [ofShort, String.toList_ofList, hrewrite]

theorem Clear.argumentNames_textIn (h : l.Clear angle)
    (hnames : ∀ name ∈ l.names, isVariable name = false) :
    argumentNames (l.textIn angle) = l.names := by
  have hscan := map_name?_placeholders (h.scanned (by decide))
  rw [filterMap_inner?_pieces, render_pieces] at hscan
  exact argumentNames_of_map_name? (hscan hnames)

end Layout

example : ofShort "a\x7b%b\x7bc\x7d%\x7d\x7b%>\x7d<d" = "a<b\x7bc>%\x7d<>><d" := by cbv

end Shortcuts.Template
