import Shortcuts.Proofs.Template.Layout
import Shortcuts.Proofs.Text.Percent
import Shortcuts.Sample

/-!
Filling a template in stages. As long as no value of a variable brings an opening bracket, the
slots of what a template is filled to are the ones that got nothing. So it can be filled with some
arguments first and with the others later, and once each slot has got something, nothing changes
any more.
-/
namespace Shortcuts.Template

theorem exists_mem_placeholdersFrom {ps : List Piece} {inner : List Char}
    (h : Piece.slot inner ∈ ps) (offset : Nat) :
    ∃ p ∈ placeholdersFrom offset ps, p.inner = inner := by
  induction ps generalizing offset with
  | nil => cases h
  | cons piece rest ih =>
    cases piece with
    | char c =>
      rw [placeholdersFrom]
      exact ih (List.mem_of_ne_of_mem Piece.noConfusion h) _
    | slot other =>
      rw [placeholdersFrom]
      rcases List.mem_cons.1 h with heq | hrest
      · obtain rfl := Piece.slot.inj heq
        exact ⟨_, List.mem_cons_self .., rfl⟩
      · obtain ⟨p, hp, hinner⟩ := ih hrest (offset + byteLength (angle.text other))
        exact ⟨p, List.mem_cons_of_mem _ hp, hinner⟩

theorem slot_mem_of_mem_placeholdersFrom {ps : List Piece} {p : Placeholder} {offset : Nat}
    (h : p ∈ placeholdersFrom offset ps) : Piece.slot p.inner ∈ ps := by
  induction ps generalizing offset with
  | nil => cases h
  | cons piece rest ih =>
    cases piece with
    | char c => exact List.mem_cons_of_mem _ (ih h)
    | slot inner =>
      rw [placeholdersFrom] at h
      rcases List.mem_cons.1 h with rfl | hrest
      · exact List.mem_cons_self ..
      · exact List.mem_cons_of_mem _ (ih hrest)

/-- The pieces of what a template is filled to: a hole without a value is still a slot. -/
def leftOver : List Part → List (List Char) → List Piece
  | [], _ => []
  | .text value :: rest, values => value.map .char ++ leftOver rest values
  | .hole inner :: rest, [] => .slot inner :: leftOver rest []
  | .hole _ :: rest, value :: values => value.map .char ++ leftOver rest values

theorem render_leftOver (parts : List Part) (values : List (List Char)) :
    render angle (leftOver parts values) = fill parts values := by
  fun_induction leftOver parts values with
  | case1 => rfl
  | case2 value rest values ih => rw [render_append, render_chars, ih, fill]
  | case3 inner rest ih =>
    rw [render_cons, ih, fill]
    rfl
  | case4 inner rest value values ih => rw [render_append, render_chars, ih, fill]

theorem slot_mem_leftOver {parts : List Part} {values : List (List Char)} {inner : List Char}
    (h : Piece.slot inner ∈ leftOver parts values) : Part.hole inner ∈ parts := by
  fun_induction leftOver parts values with
  | case1 => cases h
  | case2 value rest values ih =>
    rcases List.mem_append.1 h with hchar | hrest
    · simp at hchar
    · exact List.mem_cons_of_mem _ (ih hrest)
  | case3 other rest ih =>
    rcases List.mem_cons.1 h with heq | hrest
    · obtain rfl := Piece.slot.inj heq
      exact List.mem_cons_self ..
    · exact List.mem_cons_of_mem _ (ih hrest)
  | case4 other rest value values ih =>
    rcases List.mem_append.1 h with hchar | hrest
    · simp at hchar
    · exact List.mem_cons_of_mem _ (ih hrest)

/-- Values filled in first take the first of the holes. -/
theorem fill_leftOver (parts : List Part) (first later : List (List Char))
    (h : first.length ≤ parts.countP isHole) :
    fill ((leftOver parts first).map Piece.slotPart) later = fill parts (first ++ later) := by
  fun_induction leftOver parts first generalizing later with
  | case1 first => cases first <;> rfl
  | case2 value rest first ih =>
    rw [List.countP_cons_of_neg Bool.noConfusion] at h
    rw [fill_chars_append, ih later h, fill]
  | case3 inner rest ih =>
    rw [List.map_cons, Piece.slotPart, List.nil_append]
    cases later with
    | nil => rw [fill, fill, ih [] (Nat.zero_le _), List.nil_append]
    | cons value later => rw [fill, fill, ih later (Nat.zero_le _), List.nil_append]
  | case4 inner rest value first ih =>
    rw [List.countP_cons_of_pos rfl, List.length_cons] at h
    rw [fill_chars_append, ih later (by omega), List.cons_append, fill]

theorem countP_leftOver (parts : List Part) (values : List (List Char)) :
    ((leftOver parts values).map Piece.slotPart).countP isHole =
      parts.countP isHole - values.length := by
  fun_induction leftOver parts values with
  | case1 => simp
  | case2 value rest values ih =>
    rw [countP_chars_append, ih, List.countP_cons_of_neg Bool.noConfusion]
  | case3 inner rest ih =>
    rw [List.map_cons, Piece.slotPart, List.countP_cons_of_pos rfl, List.countP_cons_of_pos rfl,
      ih]
    rfl
  | case4 inner rest value values ih =>
    rw [countP_chars_append, ih, List.countP_cons_of_pos rfl, List.length_cons]
    omega

/-! ## Arguments in stages -/

theorem foldSurplus_append {slots : Nat} {first : List (List Char)} (later : List (List Char))
    (h : first.length < slots) :
    foldSurplus slots (first ++ later) = first ++ foldSurplus (slots - first.length) later := by
  rw [foldSurplus, foldSurplus, List.length_append]
  by_cases hfew : first.length + later.length ≤ slots
  · rw [if_pos (.inr hfew), if_pos (.inr (by omega))]
  · have hslots : slots - 1 = first.length + (slots - first.length - 1) := by omega
    rw [if_neg (by omega), if_neg (by omega), hslots, List.take_length_add_append,
      List.drop_length_add_append, List.append_assoc]

/-- Arguments that do not fill all slots leave the others to the arguments behind them. -/
theorem slotValues_append {slots : Nat} {first : List String} (later : List String)
    (h : first.length < slots) :
    slotValues slots (first ++ later) =
      slotValues slots first ++ slotValues (slots - first.length) later := by
  have hlength : (first.map String.toList).length = first.length := List.length_map ..
  have hfirst : foldSurplus slots (first.map String.toList) = first.map String.toList := by
    rw [foldSurplus, if_pos (.inr (by omega))]
  rw [slotValues, List.map_append, foldSurplus_append _ (by omega), hlength, List.map_append,
    slotValues, hfirst, slotValues]

theorem opening_notMem_slotValues {slots : Nat} {arguments : List String} {value : List Char}
    (h : value ∈ slotValues slots arguments) : '<' ∉ value := by
  obtain ⟨text, _, rfl⟩ := List.mem_map.1 h
  exact Percent.opening_notMem_encode text

namespace Setting

variable {s : Setting}

/-- Every variable of the pieces has a value without an opening bracket. -/
def Bracketless (s : Setting) (ps : List Piece) : Prop :=
  ∀ inner, Piece.slot inner ∈ ps → isVariable inner = true → '<' ∉ s.valueText inner

theorem replaced_leftOver {ps : List Piece} (hps : s.Bracketless ps)
    {values : List (List Char)} (hvalues : ∀ value ∈ values, '<' ∉ value) :
    Replaced ps (leftOver (ps.map s.settled) values) := by
  induction ps generalizing values with
  | nil => exact .nil
  | cons piece rest ih =>
    have hrest : s.Bracketless rest := fun inner hinner => hps inner (List.mem_cons_of_mem _ hinner)
    cases piece with
    | char c => exact .char (ih hrest hvalues)
    | slot inner =>
      rw [List.map_cons, settled]
      by_cases hvariable : isVariable inner
      · rw [if_pos hvariable, leftOver]
        exact .text (hps inner (List.mem_cons_self ..) hvariable) (ih hrest hvalues)
      · rw [if_neg hvariable]
        cases values with
        | nil =>
          rw [leftOver]
          exact .slot (ih hrest hvalues)
        | cons value values =>
          rw [List.forall_mem_cons] at hvalues
          rw [leftOver]
          exact .text hvalues.1 (ih hrest hvalues.2)

/-- Each variable of the template has a value, and none brings an opening bracket. -/
def ResolvesPlainly (s : Setting) (template : List Char) : Prop :=
  ∀ p ∈ placeholders template, p.isVariable = true →
    ∃ value, s.value (String.ofList p.pattern) = .ok value ∧ '<' ∉ value.toList

theorem ResolvesPlainly.findSome?_failure? {template : List Char} (h : s.ResolvesPlainly template) :
    (placeholders template).findSome? s.failure? = none := by
  rw [List.findSome?_eq_none_iff]
  intro p hp
  rw [failure?]
  split
  · rename_i hvariable
    obtain ⟨value, hvalue, _⟩ := h p hp hvariable
    rw [hvalue]
  · rfl

theorem ResolvesPlainly.bracketless {template : List Char} (h : s.ResolvesPlainly template) :
    s.Bracketless (pieces angle template) := by
  intro inner hinner hvariable
  obtain ⟨p, hp, rfl⟩ := exists_mem_placeholdersFrom hinner 0
  obtain ⟨value, hvalue, hplain⟩ := h p hp hvariable
  rw [Placeholder.pattern] at hvalue
  rw [valueText, hvalue]
  exact hplain

/-- Scanning what a template is filled to finds the pieces that were left over. -/
theorem ResolvesPlainly.pieces_fill {template : List Char} (h : s.ResolvesPlainly template)
    {values : List (List Char)} (hvalues : ∀ value ∈ values, '<' ∉ value) :
    pieces angle (fill ((pieces angle template).map s.settled) values) =
      leftOver ((pieces angle template).map s.settled) values := by
  have hscanned := (replaced_leftOver h.bracketless hvalues).scanned (scanned_pieces angle template)
  rw [← render_leftOver, hscanned.pieces_render]

theorem slot_notVariable_of_leftOver {ps : List Piece} {values : List (List Char)}
    {inner : List Char} (h : Piece.slot inner ∈ leftOver (ps.map s.settled) values) :
    isVariable inner = false := by
  obtain ⟨piece, _, hpiece⟩ := List.mem_map.1 (slot_mem_leftOver h)
  cases piece with
  | char c => cases hpiece
  | slot other =>
    rw [settled] at hpiece
    split at hpiece
    · cases hpiece
    · rename_i hvariable
      obtain rfl := Part.hole.inj hpiece
      simpa using hvariable

/-- Without variables the setting does not matter. -/
theorem settled_of_notVariable (s : Setting) {ps : List Piece}
    (h : ∀ inner, Piece.slot inner ∈ ps → isVariable inner = false) :
    ps.map s.settled = ps.map Piece.slotPart := by
  refine List.map_congr_left fun piece hpiece => ?_
  cases piece with
  | char c => rfl
  | slot inner =>
    rw [settled, h inner hpiece]
    rfl

theorem failure?_of_notVariable (s : Setting) {ps : List Piece}
    (h : ∀ inner, Piece.slot inner ∈ ps → isVariable inner = false) (offset : Nat) :
    (placeholdersFrom offset ps).findSome? s.failure? = none := by
  rw [List.findSome?_eq_none_iff]
  intro p hp
  rw [failure?, Placeholder.isVariable, h p.inner (slot_mem_of_mem_placeholdersFrom hp)]
  rfl

/-- Filling again what has been filled already. -/
theorem ResolvesPlainly.expand_fill {template : List Char} (h : s.ResolvesPlainly template)
    {values : List (List Char)} (hvalues : ∀ value ∈ values, '<' ∉ value) (s' : Setting)
    (arguments : List String) :
    s'.expand (String.ofList (fill ((pieces angle template).map s.settled) values)) arguments =
      .ok (String.ofList (fill
        ((leftOver ((pieces angle template).map s.settled) values).map Piece.slotPart)
        (slotValues (((pieces angle template).map s.settled).countP isHole - values.length)
          arguments))) := by
  have hnone : ∀ inner,
      Piece.slot inner ∈ leftOver ((pieces angle template).map s.settled) values →
        isVariable inner = false := fun _ => slot_notVariable_of_leftOver
  rw [expand_eq, String.toList_ofList, argumentNames, placeholders, ← s'.countP_settled,
    h.pieces_fill hvalues, s'.failure?_of_notVariable hnone, s'.settled_of_notVariable hnone,
    countP_leftOver]

end Setting

theorem placeholdersFrom_eq_nil {ps : List Piece} (h : (ps.map Piece.slotPart).countP isHole = 0)
    (offset : Nat) : placeholdersFrom offset ps = [] := by
  induction ps generalizing offset with
  | nil => rfl
  | cons piece rest ih =>
    cases piece with
    | char c =>
      rw [List.map_cons, Piece.slotPart, List.countP_cons_of_neg Bool.noConfusion] at h
      rw [placeholdersFrom, ih h]
    | slot inner =>
      rw [List.map_cons, Piece.slotPart, List.countP_cons_of_pos rfl] at h
      omega

theorem fill_of_countP_eq_zero {ps : List Piece}
    (h : (ps.map Piece.slotPart).countP isHole = 0) (values : List (List Char)) :
    fill (ps.map Piece.slotPart) values = render angle ps := by
  induction ps with
  | nil => rfl
  | cons piece rest ih =>
    cases piece with
    | char c =>
      rw [List.map_cons, Piece.slotPart, List.countP_cons_of_neg Bool.noConfusion] at h
      rw [List.map_cons, Piece.slotPart, fill, ih h, render_cons]
      rfl
    | slot inner =>
      rw [List.map_cons, Piece.slotPart, List.countP_cons_of_pos rfl] at h
      omega

/-- Arguments that leave slots open can be followed by others, as if all had come at once. When
no slot is left open there is no placeholder any more, and filling again changes nothing. -/
theorem Setting.expand_in_stages (s : Setting) (template : String)
    (h : s.ResolvesPlainly template.toList) (first later : List String) :
    (first.length < (argumentNames template.toList).length →
      ∃ url filled, s.expand template first = .ok url ∧ s.expand url later = .ok filled ∧
        s.expand template (first ++ later) = .ok filled) ∧
    ((argumentNames template.toList).length ≤ first.length →
      ∃ url, s.expand template first = .ok url ∧ placeholders url.toList = [] ∧
        ∀ (s' : Setting) again, s'.expand url again = .ok url) := by
  have hslots : ((pieces angle template.toList).map s.settled).countP isHole =
      (argumentNames template.toList).length := s.countP_settled 0 _
  have hexpand : ∀ arguments, s.expand template arguments = .ok (String.ofList
      (fill ((pieces angle template.toList).map s.settled)
        (slotValues (argumentNames template.toList).length arguments))) := by
    intro arguments
    rw [s.expand_eq, h.findSome?_failure?]
  have hplain : ∀ value ∈ slotValues (argumentNames template.toList).length first,
      '<' ∉ value := fun _ => opening_notMem_slotValues
  constructor
  · intro hopen
    have hlength := length_slotValues (argumentNames template.toList).length first
    rw [if_neg (by omega), Nat.min_eq_left (by omega)] at hlength
    -- The holes that the first arguments left open are the slots found in the second stage.
    refine ⟨_, _, hexpand first, h.expand_fill hplain s later, ?_⟩
    rw [hexpand, slotValues_append later hopen, fill_leftOver _ _ _ (by omega), hslots, hlength]
  · intro hfull
    have hlength := length_slotValues (argumentNames template.toList).length first
    have hnone : ((leftOver ((pieces angle template.toList).map s.settled)
        (slotValues (argumentNames template.toList).length first)).map
          Piece.slotPart).countP isHole = 0 := by
      rw [countP_leftOver, hslots, hlength]
      split <;> omega
    refine ⟨_, hexpand first, ?_, fun s' again => ?_⟩
    · rw [String.toList_ofList, placeholders, h.pieces_fill hplain, placeholdersFrom_eq_nil hnone]
    · rw [h.expand_fill hplain s' again, fill_of_countP_eq_zero hnone, render_leftOver]

end Shortcuts.Template

namespace Shortcuts.Sample

/-- Brackets that open nothing stand beside a variable and two slots. -/
def bracketed : String := "https://<$language>.example/<>?a=<a<b>&c=<c>&<"

theorem bracketed_resolvesPlainly :
    (environment.setting clock).ResolvesPlainly bracketed.toList := by
  have hplaceholders : Template.placeholders bracketed.toList =
      [⟨"$language".toList, 8⟩, ⟨"a<b".toList, 33⟩, ⟨"c".toList, 41⟩] := by decide +kernel
  intro p hp hvariable
  rw [hplaceholders] at hp
  rcases List.mem_cons.1 hp with rfl | hp
  · exact ⟨"de", rfl, by decide⟩
  · rcases List.mem_cons.1 hp with rfl | hp
    · cases hvariable
    · obtain rfl := List.mem_singleton.1 hp
      cases hvariable

/-- A bracket in an argument opens nothing either, and a third argument joins the second. -/
theorem bracketed_filled :
    (environment.setting clock).ResolvesPlainly bracketed.toList ∧
    (∃ url, (environment.setting clock).expand bracketed ["<"] = .ok url ∧
      (environment.setting clock).expand url ["1>", "2"] =
        .ok "https://de.example/<>?a=%3C&c=1%3E%2C2&<") ∧
    ∀ again, (environment.setting clock).expand "https://de.example/<>?a=%3C&c=1%3E%2C2&<" again =
      .ok "https://de.example/<>?a=%3C&c=1%3E%2C2&<" := by
  have hfilled : (environment.setting clock).expand bracketed ["<", "1>", "2"] =
      .ok "https://de.example/<>?a=%3C&c=1%3E%2C2&<" := rfl
  refine ⟨bracketed_resolvesPlainly, ?_, ?_⟩
  · obtain ⟨url, filled, hfirst, hlater, hall⟩ :=
      ((environment.setting clock).expand_in_stages bracketed bracketed_resolvesPlainly
        ["<"] ["1>", "2"]).1 (by decide +kernel)
    exact ⟨url, hfirst, hlater.trans (hall.symm.trans hfilled)⟩
  · obtain ⟨url, hfull, _, hagain⟩ :=
      ((environment.setting clock).expand_in_stages bracketed bracketed_resolvesPlainly
        ["<", "1>", "2"] []).2 (by decide +kernel)
    obtain rfl := Except.ok.inj (hfilled.symm.trans hfull)
    exact hagain _

end Shortcuts.Sample
