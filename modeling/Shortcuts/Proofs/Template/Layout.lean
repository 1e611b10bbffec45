import Shortcuts.Proofs.Template.Splicing

/-!
The layout of a template: the texts between its slots, in one pass from left to right. Whether a
template can be filled depends on its variables alone, and a filled template is its layout with
something written for each slot: its value for a variable, and for an argument what its place
among the arguments says.
-/
namespace Shortcuts.Template

/-- The text in front of the first slot, and the inner text of each slot with the text behind. -/
structure Layout where
  before : List Char
  slots : List (List Char × List Char)
  deriving DecidableEq, Repr

namespace Layout

def text (l : Layout) : List Char :=
  l.before ++ l.slots.flatMap fun slot => angle.text slot.1 ++ slot.2

/-- The slots with their places, the first of which is at an offset. -/
def placed (offset : Nat) : List (List Char × List Char) → List Placeholder
  | [] => []
  | (inner, behind) :: rest =>
    ⟨inner, offset⟩ :: placed (offset + byteLength (angle.text inner) + byteLength behind) rest

def placeholders (l : Layout) : List Placeholder := placed (byteLength l.before) l.slots

/-- Writes a text for each slot; `j` arguments stand in front. -/
def writeFrom (value : List Char → List Char) (argument : Nat → List Char → List Char) :
    (j : Nat) → List (List Char × List Char) → List Char
  | _, [] => []
  | j, (inner, behind) :: rest =>
    if isVariable inner then value inner ++ behind ++ writeFrom value argument j rest
    else argument j inner ++ behind ++ writeFrom value argument (j + 1) rest

/-- The layout with texts for its variables and, counted from zero, for its arguments. -/
def write (value : List Char → List Char) (argument : Nat → List Char → List Char)
    (l : Layout) : List Char :=
  l.before ++ writeFrom value argument 0 l.slots

/-- How many slots are for arguments. -/
def arity (slots : List (List Char × List Char)) : Nat :=
  slots.countP fun slot => !isVariable slot.1

theorem writeFrom_congr (value : List Char → List Char)
    {f g : Nat → List Char → List Char} (slots : List (List Char × List Char)) (j : Nat)
    (h : ∀ i < j + arity slots, ∀ inner, f i inner = g i inner) :
    writeFrom value f j slots = writeFrom value g j slots := by
  induction slots generalizing j with
  | nil => rfl
  | cons slot rest ih =>
    obtain ⟨inner, behind⟩ := slot
    rw [writeFrom, writeFrom]
    by_cases hvariable : isVariable inner
    · have harity : arity ((inner, behind) :: rest) = arity rest := by simp [arity, hvariable]
      rw [harity] at h
      rw [if_pos hvariable, if_pos hvariable, ih j h]
    · have harity : arity ((inner, behind) :: rest) = arity rest + 1 := by
        simp [arity, hvariable]
      rw [harity] at h
      rw [if_neg hvariable, if_neg hvariable, h j (by omega) inner,
        ih (j + 1) fun i hi => h i (by omega)]

end Layout

def layoutOf : List Piece → Layout
  | [] => ⟨[], []⟩
  | .char c :: rest => ⟨c :: (layoutOf rest).before, (layoutOf rest).slots⟩
  | .slot inner :: rest => ⟨[], (inner, (layoutOf rest).before) :: (layoutOf rest).slots⟩

def layout (template : List Char) : Layout := layoutOf (pieces angle template)

theorem text_layoutOf (ps : List Piece) : (layoutOf ps).text = render angle ps := by
  induction ps with
  | nil => rfl
  | cons piece rest ih =>
    rw [render_cons, ← ih]
    cases piece <;> simp [layoutOf, Layout.text, Piece.text]

theorem placeholders_layoutOf (offset : Nat) (ps : List Piece) :
    Layout.placed (offset + byteLength (layoutOf ps).before) (layoutOf ps).slots =
      placeholdersFrom offset ps := by
  induction ps generalizing offset with
  | nil => rfl
  | cons piece rest ih =>
    cases piece with
    | char c =>
      rw [placeholdersFrom, ← ih, layoutOf, byteLength, Nat.add_assoc]
    | slot inner =>
      rw [placeholdersFrom, ← ih]
      rfl

theorem text_layout (template : List Char) : (layout template).text = template := by
  rw [layout, text_layoutOf, render_pieces]

theorem placeholders_layout (template : List Char) :
    (layout template).placeholders = placeholders template := by
  have h := placeholders_layoutOf 0 (pieces angle template)
  rwa [Nat.zero_add] at h

example : layout "a<b>c<$d>".toList =
    ⟨"a".toList, [("b".toList, "c".toList), ("$d".toList, [])]⟩ := by decide +kernel

theorem arity_placed (offset : Nat) (slots : List (List Char × List Char)) :
    ((Layout.placed offset slots).filterMap Placeholder.name?).length = Layout.arity slots := by
  induction slots generalizing offset with
  | nil => rfl
  | cons slot rest ih =>
    obtain ⟨inner, behind⟩ := slot
    rw [Layout.placed, List.filterMap_cons, Placeholder.name?, Placeholder.isVariable]
    by_cases hvariable : isVariable inner
    · simpa [Layout.arity, hvariable] using ih _
    · simpa [Layout.arity, hvariable] using ih _

theorem arity_layout (template : List Char) :
    Layout.arity (layout template).slots = (argumentNames template).length := by
  rw [argumentNames, ← placeholders_layout, Layout.placeholders, arity_placed]

/-! ## Variables -/

namespace Setting

variable (s : Setting)

/-- What keeps a variable from having a value. -/
def failure? (p : Placeholder) : Option Failure :=
  if p.isVariable then
    match s.value (String.ofList p.pattern) with
    | .ok _ => none
    | .error failure => some failure
  else none

/-- The value of a variable that has one. -/
def valueText (inner : List Char) : List Char :=
  match s.value (String.ofList (angle.text inner)) with
  | .ok value => value.toList
  | .error _ => []

/-- What a piece is in a template whose variables all have values. -/
def settled : Piece → Part
  | .char c => .text [c]
  | .slot inner => if isVariable inner then .text (s.valueText inner) else .hole inner

/-- The text of a slot that the setting has a value for. -/
def own? (inner : List Char) : Option (List Char) :=
  if isVariable inner then some (s.valueText inner) else none

theorem part_own : Piece.part s.own? = s.settled := by
  funext piece
  cases piece with
  | char c => rfl
  | slot inner =>
    rw [Piece.part, own?, settled]
    by_cases hvariable : isVariable inner
    · rw [if_pos hvariable, if_pos hvariable]
    · rw [if_neg hvariable, if_neg hvariable]

/-- The first variable without a value decides, if there is one. -/
theorem resolve_eq (ps : List Placeholder) :
    s.resolve (ps.filter Placeholder.isVariable) =
      match ps.findSome? s.failure? with
      | some failure => .error failure
      | none => .ok (ps.filterMap fun p => (s.own? p.inner).map (Substitute.mk p)) := by
  induction ps with
  | nil => rfl
  | cons p rest ih =>
    rw [List.filter_cons, List.findSome?_cons, List.filterMap_cons, failure?, own?]
    by_cases hvariable : p.isVariable = true
    · have hinner : isVariable p.inner = true := hvariable
      rw [if_pos hvariable, if_pos hvariable, if_pos hinner, resolve, ih, valueText,
        Placeholder.pattern]
      cases s.value (String.ofList (angle.text p.inner)) with
      | error failure => rfl
      | ok value => cases rest.findSome? s.failure? <;> rfl
    · have hinner : ¬ isVariable p.inner = true := hvariable
      rw [if_neg hvariable, if_neg hvariable, if_neg hinner, ih]
      cases rest.findSome? s.failure? <;> rfl

theorem filter_not_isVariable (ps : List Placeholder) :
    ps.filter (!·.isVariable) = ps.filter fun p => (s.own? p.inner).isNone := by
  refine List.filter_congr fun p _ => ?_
  rw [own?, Placeholder.isVariable]
  cases isVariable p.inner <;> rfl

theorem length_filter_not_isVariable (ps : List Placeholder) :
    (ps.filter (!·.isVariable)).length = (ps.filterMap Placeholder.name?).length := by
  induction ps with
  | nil => rfl
  | cons p rest ih =>
    rw [List.filter_cons, List.filterMap_cons, Placeholder.name?]
    cases p.isVariable with
    | true => exact ih
    | false => exact congrArg (· + 1) ih

/-- What is collected for a template without a failure, sorted by places: what one pass brings. -/
theorem substitutes_eq (template : List Char) (arguments : List String) :
    (s.substitutes template arguments).map byPlace =
      match (placeholders template).findSome? s.failure? with
      | some failure => .error failure
      | none => .ok (ordered s.own? (placeholders template)
          (slotValues (argumentNames template).length arguments)) := by
  rw [substitutes, resolve_eq]
  cases (placeholders template).findSome? s.failure? with
  | some failure => rfl
  | none =>
    have hperm := ordered_perm s.own? (placeholders template)
      (slotValues (argumentNames template).length arguments)
    rw [← filter_not_isVariable] at hperm
    rw [argumentNames, ← length_filter_not_isVariable] at hperm ⊢
    exact congrArg Except.ok (byPlace_eq_of_perm hperm.symm (ordered_ascending template _))

theorem countP_settled (offset : Nat) (ps : List Piece) :
    (ps.map s.settled).countP isHole =
      ((placeholdersFrom offset ps).filterMap Placeholder.name?).length := by
  induction ps generalizing offset with
  | nil => rfl
  | cons piece rest ih =>
    cases piece with
    | char c =>
      rw [placeholdersFrom, ← ih]
      simp [settled, isHole]
    | slot inner =>
      rw [placeholdersFrom, List.filterMap_cons, Placeholder.name?, Placeholder.isVariable,
        List.map_cons, settled]
      have hrest := ih (offset + byteLength (angle.text inner))
      by_cases hvariable : isVariable inner
      · rw [if_pos hvariable, if_pos hvariable, List.countP_cons_of_neg (by simp [isHole]), hrest]
      · rw [if_neg hvariable, if_neg hvariable, List.countP_cons_of_pos rfl, hrest]
        rfl

/-- The template can be cut at the places of what is put in. -/
theorem splice?_substitutes (template : List Char) (arguments : List String) :
    ((s.substitutes template arguments).map fun found => splice? template (byPlace found)) =
      match (placeholders template).findSome? s.failure? with
      | some failure => .error failure
      | none => .ok (some (fill ((pieces angle template).map s.settled)
          (slotValues (argumentNames template).length arguments))) := by
  have hsort : ((s.substitutes template arguments).map fun found =>
      splice? template (byPlace found)) =
        ((s.substitutes template arguments).map byPlace).map (splice? template) := by
    cases s.substitutes template arguments <;> rfl
  rw [hsort, substitutes_eq]
  cases (placeholders template).findSome? s.failure? with
  | some failure => rfl
  | none => exact congrArg Except.ok (by rw [splice?_ordered, part_own])

theorem expand_eq (template : String) (arguments : List String) :
    s.expand template arguments =
      match (placeholders template.toList).findSome? s.failure? with
      | some failure => .error failure
      | none => .ok (String.ofList (fill ((pieces angle template.toList).map s.settled)
          (slotValues (argumentNames template.toList).length arguments))) := by
  have hsplice : s.expand template arguments =
      ((s.substitutes template.toList arguments).map fun found =>
        splice? template.toList (byPlace found)).map fun text => String.ofList (text.getD []) := by
    rw [expand]
    cases s.substitutes template.toList arguments <;> rfl
  rw [hsplice, splice?_substitutes]
  cases (placeholders template.toList).findSome? s.failure? <;> rfl

/-- Filling by position is writing the layout. -/
theorem fill_settled (values : List (List Char)) (j : Nat) (ps : List Piece) :
    fill (ps.map s.settled) (values.drop j) =
      (layoutOf ps).before ++ Layout.writeFrom s.valueText
        (fun i inner => values[i]?.getD (angle.text inner)) j (layoutOf ps).slots := by
  induction ps generalizing j with
  | nil => rfl
  | cons piece rest ih =>
    cases piece with
    | char c =>
      rw [List.map_cons, settled, fill, ih, layoutOf]
      rfl
    | slot inner =>
      rw [List.map_cons, settled, layoutOf, Layout.writeFrom, List.nil_append]
      by_cases hvariable : isVariable inner
      · rw [if_pos hvariable, if_pos hvariable, fill, ih, List.append_assoc]
      · rw [if_neg hvariable, if_neg hvariable]
        have hrest := ih (j + 1)
        -- `fill` takes the first of the values that are left, `writeFrom` the one at place `j`.
        cases hvalues : values.drop j with
        | nil =>
          have hnone : values.drop (j + 1) = [] := by
            rw [← List.drop_drop, hvalues, List.drop_nil]
          have hj : values[j]? = none := by
            rw [← List.head?_drop, hvalues, List.head?_nil]
          rw [hnone] at hrest
          rw [fill, hrest, hj, Option.getD_none, List.append_assoc]
        | cons value behind =>
          have hbehind : values.drop (j + 1) = behind := by
            rw [← List.drop_drop, hvalues, List.drop_one, List.tail_cons]
          have hj : values[j]? = some value := by
            rw [← List.head?_drop, hvalues, List.head?_cons]
          rw [hbehind] at hrest
          rw [fill, hrest, hj, Option.getD_some, List.append_assoc]

theorem fill_eq_write (template : List Char) (values : List (List Char)) :
    fill ((pieces angle template).map s.settled) values =
      (layout template).write s.valueText fun i inner => values[i]?.getD (angle.text inner) := by
  have h := s.fill_settled values 0 (pieces angle template)
  rwa [List.drop_zero] at h

variable {s}

/-- A template that can be filled has nothing to complain of, and its layout is written with the
values of the slots. -/
theorem of_expand {template url : String} {arguments : List String}
    (h : s.expand template arguments = .ok url) :
    (∀ p ∈ placeholders template.toList, s.failure? p = none) ∧
    url.toList = (layout template.toList).write s.valueText fun j inner =>
      (slotValues (argumentNames template.toList).length arguments)[j]?.getD
        (angle.text inner) := by
  rw [s.expand_eq] at h
  cases hfailure : (placeholders template.toList).findSome? s.failure? with
  | some failure => simp [hfailure] at h
  | none =>
    simp only [hfailure] at h
    obtain rfl := Except.ok.inj h
    exact ⟨List.findSome?_eq_none_iff.1 hfailure, by rw [String.toList_ofList, s.fill_eq_write]⟩

end Setting

/-! ## Arguments -/

/-- What the argument slot at place `j` of so many contributes: the argument at its place, for the
last slot with all that are left over, and its own pattern where there is none. -/
def argumentText (slots : Nat) (arguments : List String) (j : Nat) (inner : List Char) :
    List Char :=
  if j + 1 = slots ∧ slots < arguments.length then
    Percent.encode (Text.join [','] ((arguments.drop j).map String.toList))
  else
    match arguments[j]? with
    | some argument => Percent.encode argument.toList
    | none => angle.text inner

theorem length_slotValues (slots : Nat) (arguments : List String) :
    (slotValues slots arguments).length =
      if slots = 0 then arguments.length else min arguments.length slots := by
  rw [slotValues, foldSurplus, List.length_map]
  by_cases hfew : slots = 0 ∨ (arguments.map String.toList).length ≤ slots
  · rw [if_pos hfew]
    rw [List.length_map] at hfew ⊢
    split <;> omega
  · rw [if_neg hfew]
    simp only [List.length_map, List.length_append, List.length_take, List.length_singleton]
      at hfew ⊢
    split <;> omega

theorem getD_slotValues {slots j : Nat} (h : j < slots) (arguments : List String)
    (inner : List Char) :
    (slotValues slots arguments)[j]?.getD (angle.text inner) =
      argumentText slots arguments j inner := by
  rw [slotValues, foldSurplus, argumentText, List.length_map]
  by_cases hfew : slots = 0 ∨ arguments.length ≤ slots
  · rw [if_pos hfew, if_neg (by omega), List.getElem?_map, List.getElem?_map]
    cases arguments[j]? <;> rfl
  · rw [if_neg hfew, List.getElem?_map]
    by_cases hlast : j + 1 = slots
    · have hj : slots - 1 = j := by omega
      have hlength : ((arguments.map String.toList).take j).length = j := by
        rw [List.length_take, List.length_map]
        omega
      rw [if_pos (by omega), hj, List.getElem?_append_right (by omega), hlength, Nat.sub_self]
      simp
    · rw [if_neg (by omega), List.getElem?_append_left (by simp; omega),
        List.getElem?_take_of_lt (by omega), List.getElem?_map]
      cases arguments[j]? <;> rfl

/-- Filling by position puts in the argument that stands at the place of each slot. -/
theorem Setting.fill_slotValues (s : Setting) (template : List Char) (arguments : List String) :
    fill ((pieces angle template).map s.settled)
        (slotValues (argumentNames template).length arguments) =
      (layout template).write s.valueText
        (argumentText (argumentNames template).length arguments) := by
  rw [s.fill_eq_write, Layout.write, Layout.write, Layout.writeFrom_congr _ _ _ fun i hi inner =>
    getD_slotValues (by rw [arity_layout] at hi; omega) arguments inner]

/-- The layout of a template, written in a single pass. -/
def Setting.writeOnce (s : Setting) (template : List Char) (arguments : List String) :
    Except Failure (List Char) :=
  match (placeholders template).findSome? s.failure? with
  | some failure => .error failure
  | none => .ok ((layout template).write s.valueText
      (argumentText (argumentNames template).length arguments))

/-- Filling a template is writing its layout once, and the layout is the template cut at its
placeholders. What was collected for the placeholders, in one round for the variables and another
one for the arguments, can always be put in by its places. -/
theorem Setting.expand_eq_writeOnce (s : Setting) (template : String) (arguments : List String) :
    (layout template.toList).text = template.toList ∧
    (layout template.toList).placeholders = placeholders template.toList ∧
    ((s.substitutes template.toList arguments).map fun found =>
      splice? template.toList (byPlace found)) =
        (s.writeOnce template.toList arguments).map some ∧
    s.expand template arguments = (s.writeOnce template.toList arguments).map String.ofList := by
  refine ⟨text_layout _, placeholders_layout _, ?_, ?_⟩
  · rw [splice?_substitutes, fill_slotValues, writeOnce]
    cases (placeholders template.toList).findSome? s.failure? <;> rfl
  · rw [expand_eq, fill_slotValues, writeOnce]
    cases (placeholders template.toList).findSome? s.failure? <;> rfl

end Shortcuts.Template
