import Shortcuts.Proofs.Template.Spans

/-!
The names of the arguments of a template. They are the inner texts of its slots that are no
variables, from left to right, and in slots of their own they are found again.
-/
namespace Shortcuts.Template

def Piece.inner? : Piece → Option (List Char)
  | .char _ => none
  | .slot inner => some inner

theorem filterMap_inner?_chars (text : List Char) (ps : List Piece) :
    (text.map Piece.char ++ ps).filterMap Piece.inner? = ps.filterMap Piece.inner? := by
  have hnone : (text.map Piece.char).filterMap Piece.inner? = [] := by
    rw [List.filterMap_map, List.filterMap_eq_nil_iff]
    exact fun c _ => rfl
  rw [List.filterMap_append, hnone, List.nil_append]

theorem map_inner_placeholdersFrom (offset : Nat) (ps : List Piece) :
    (placeholdersFrom offset ps).map Placeholder.inner = ps.filterMap Piece.inner? := by
  induction ps generalizing offset with
  | nil => rfl
  | cons piece rest ih =>
    cases piece with
    | char c =>
      have hchar : (Piece.char c :: rest).filterMap Piece.inner? =
          rest.filterMap Piece.inner? := rfl
      rw [placeholdersFrom, ih, hchar]
    | slot inner =>
      have hslot : (Piece.slot inner :: rest).filterMap Piece.inner? =
          inner :: rest.filterMap Piece.inner? := rfl
      rw [placeholdersFrom, List.map_cons, ih, hslot]

/-- What may be the name of an argument. -/
structure IsName (name : List Char) : Prop where
  inner : angle.Inner name
  notVariable : isVariable name = false

/-- Each name stands in its slot somewhere in the template. -/
theorem exists_of_mem_argumentNames {template name : List Char}
    (h : name ∈ argumentNames template) :
    IsName name ∧ ∃ before behind, template = before ++ (angle.text name ++ behind) := by
  obtain ⟨p, hp, hname⟩ := List.mem_filterMap.1 h
  have hexact := (exact_iff_placeholdersFrom 0 template (placeholders template)).2 rfl
  obtain ⟨before, behind, htext, _⟩ := hexact.stands p hp
  rw [Placeholder.name?, Placeholder.isVariable] at hname
  by_cases hvariable : isVariable p.inner = true
  · rw [if_pos hvariable] at hname
    cases hname
  · rw [if_neg hvariable] at hname
    obtain rfl := Option.some.inj hname
    exact ⟨⟨(hexact.formed p hp).inner, by simpa using hvariable⟩, before, behind, htext⟩

theorem subset_of_mem_argumentNames {template name : List Char}
    (h : name ∈ argumentNames template) : name ⊆ template := by
  obtain ⟨_, before, behind, rfl⟩ := exists_of_mem_argumentNames h
  intro c hc
  have hslot : c ∈ angle.text name := by
    simp [Marks.text, hc]
  exact List.mem_append_right before (List.mem_append_left behind hslot)

/-- A scan that finds arguments only finds their names. -/
theorem argumentNames_of_map_name? {template : List Char} {names : List (List Char)}
    (h : (placeholders template).map Placeholder.name? = names.map some) :
    argumentNames template = names := by
  calc argumentNames template
      = ((placeholders template).map Placeholder.name?).filterMap id := by
        rw [List.filterMap_map]
        rfl
    _ = (names.map some).filterMap id := by rw [h]
    _ = names := by
        rw [List.filterMap_map]
        exact List.filterMap_some

/-- Where no slot is a variable, the scan gives the inner text of each one as a name. -/
theorem map_name?_placeholders {ps : List Piece} (h : Scanned angle ps)
    (hnames : ∀ inner ∈ ps.filterMap Piece.inner?, isVariable inner = false) :
    (placeholders (render angle ps)).map Placeholder.name? =
      (ps.filterMap Piece.inner?).map some := by
  have hname : ∀ p ∈ placeholdersFrom 0 ps, p.name? = some p.inner := by
    intro p hp
    have hmem : p.inner ∈ ps.filterMap Piece.inner? := by
      rw [← map_inner_placeholdersFrom 0]
      exact List.mem_map.2 ⟨p, hp, rfl⟩
    rw [Placeholder.name?, Placeholder.isVariable, hnames p.inner hmem]
    rfl
  rw [placeholders, h.pieces_render, ← map_inner_placeholdersFrom 0, List.map_map]
  exact List.map_congr_left hname

end Shortcuts.Template
