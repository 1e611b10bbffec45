import Mathlib.Data.List.Sort
import Shortcuts.Proofs.Template.Spans
import Shortcuts.Template.Expansion

/-!
Splicing and filling. Substitutes that are collected in two rounds, sorted by their places and
spliced into a text by bytes give what a single pass over the pieces of the text writes: the
substitute where a slot has one, and everything else as it stands.
-/
namespace Shortcuts.Template

/-! ## Cutting by bytes -/

/-- A character takes a byte at least. -/
theorem byteLength_cons_eq_succ (c : Char) (rest : List Char) :
    ∃ n, byteLength (c :: rest) = n + 1 ∧ c.utf8Size ≤ n + 1 ∧
      n + 1 - c.utf8Size = byteLength rest := by
  have hpos := c.utf8Size_pos
  refine ⟨c.utf8Size + byteLength rest - 1, ?_⟩
  rw [byteLength]
  omega

theorem dropBytes?_append (front back : List Char) :
    dropBytes? (byteLength front) (front ++ back) = some back := by
  induction front with
  | nil => cases back <;> rfl
  | cons c rest ih =>
    obtain ⟨n, hlength, hle, hrest⟩ := byteLength_cons_eq_succ c rest
    rw [hlength, List.cons_append, dropBytes?, if_pos hle, hrest, ih]

theorem takeBytes?_append (front back : List Char) :
    takeBytes? (byteLength front) (front ++ back) = some front := by
  induction front with
  | nil => cases back <;> rfl
  | cons c rest ih =>
    obtain ⟨n, hlength, hle, hrest⟩ := byteLength_cons_eq_succ c rest
    rw [hlength, List.cons_append, takeBytes?, if_pos hle, hrest, ih]
    rfl

/-- A part of a text is found again by its place. -/
theorem slice?_append (front part back : List Char) :
    slice? (front ++ (part ++ back)) (byteLength front) (byteLength front + byteLength part) =
      some part := by
  rw [slice?, if_pos (Nat.le_add_right _ _), dropBytes?_append, Option.bind_some,
    Nat.add_sub_cancel_left, takeBytes?_append]

/-! ## A single pass -/

/-- A piece of a text that is being filled: what it holds, or a slot still to be filled. -/
inductive Part where
  | text (value : List Char)
  | hole (name : List Char)
  deriving DecidableEq, Repr

def isHole : Part → Bool
  | .hole _ => true
  | .text _ => false

/-- Fills holes by position; those without a value keep their brackets. -/
def fill : List Part → List (List Char) → List Char
  | [], _ => []
  | .text value :: rest, values => value ++ fill rest values
  | .hole name :: rest, [] => angle.text name ++ fill rest []
  | .hole _ :: rest, value :: values => value ++ fill rest values

def Piece.slotPart : Piece → Part
  | .char c => .text [c]
  | .slot inner => .hole inner

theorem fill_chars_append (text : List Char) (ps : List Piece) (values : List (List Char)) :
    fill ((text.map Piece.char ++ ps).map Piece.slotPart) values =
      text ++ fill (ps.map Piece.slotPart) values := by
  induction text with
  | nil => rfl
  | cons c rest ih =>
    rw [List.map_cons, List.cons_append, List.map_cons, Piece.slotPart, fill, ih]
    rfl

theorem countP_chars_append (text : List Char) (ps : List Piece) :
    ((text.map Piece.char ++ ps).map Piece.slotPart).countP isHole =
      (ps.map Piece.slotPart).countP isHole := by
  induction text with
  | nil => rfl
  | cons c rest ih =>
    rw [List.map_cons, List.cons_append, List.map_cons, List.countP_cons_of_neg Bool.noConfusion,
      ih]

theorem countP_slotPart (offset : Nat) (ps : List Piece) :
    (ps.map Piece.slotPart).countP isHole = (placeholdersFrom offset ps).length := by
  induction ps generalizing offset with
  | nil => rfl
  | cons piece rest ih =>
    cases piece with
    | char c =>
      rw [List.map_cons, Piece.slotPart, List.countP_cons_of_neg Bool.noConfusion,
        placeholdersFrom, ih]
    | slot inner =>
      rw [List.map_cons, Piece.slotPart, List.countP_cons_of_pos rfl, placeholdersFrom,
        List.length_cons, ih]

/-! ## Substitutes in the order of the text -/

section Ordered

-- The texts of those slots that have one of their own.
variable (own : List Char → Option (List Char))

def Piece.part : Piece → Part
  | .char c => .text [c]
  | .slot inner =>
    match own inner with
    | some value => .text value
    | none => .hole inner

/-- The substitutes for placeholders one behind the other; those without a text of their own take
the values by position, as long as there are any. -/
def ordered : List Placeholder → List (List Char) → List Substitute
  | [], _ => []
  | p :: rest, values =>
    match own p.inner, values with
    | some value, values => ⟨p, value⟩ :: ordered rest values
    | none, [] => ordered rest []
    | none, value :: values => ⟨p, value⟩ :: ordered rest values

variable {own}

theorem ordered_own {p : Placeholder} {value : List Char} (h : own p.inner = some value)
    (rest : List Placeholder) (values : List (List Char)) :
    ordered own (p :: rest) values = ⟨p, value⟩ :: ordered own rest values := by
  simp only [ordered, h]

theorem ordered_nil {p : Placeholder} (h : own p.inner = none) (rest : List Placeholder) :
    ordered own (p :: rest) [] = ordered own rest [] := by
  simp only [ordered, h]

theorem ordered_cons {p : Placeholder} (h : own p.inner = none) (rest : List Placeholder)
    (value : List Char) (values : List (List Char)) :
    ordered own (p :: rest) (value :: values) = ⟨p, value⟩ :: ordered own rest values := by
  simp only [ordered, h]

/-- One substitute: what lies between the cursor and its slot is copied. -/
theorem spliceFrom?_cons (front kept inner back value : List Char) (rest : List Substitute) :
    spliceFrom? (front ++ (kept ++ (angle.text inner ++ back))) (byteLength front)
        (⟨⟨inner, byteLength front + byteLength kept⟩, value⟩ :: rest) =
      (spliceFrom? (front ++ (kept ++ (angle.text inner ++ back)))
        (byteLength front + byteLength kept + byteLength (angle.text inner)) rest).map
          (kept ++ value ++ ·) := by
  rw [spliceFrom?, slice?_append, Option.bind_eq_bind, Option.bind_some, Placeholder.stop_mk]
  cases spliceFrom? _ _ rest <;> rfl

variable (own) in
/-- Splicing writes each piece in turn. The text in front of the cursor is done with; that behind
it and in front of the pieces is kept until something is put in. -/
theorem spliceFrom?_ordered (front kept : List Char) (ps : List Piece)
    (values : List (List Char)) :
    spliceFrom? (front ++ (kept ++ render angle ps)) (byteLength front)
        (ordered own (placeholdersFrom (byteLength front + byteLength kept) ps) values) =
      some (kept ++ fill (ps.map (Piece.part own)) values) := by
  induction ps generalizing front kept values with
  | nil =>
    have hend := slice?_append front kept []
    rw [List.append_nil] at hend
    rw [placeholdersFrom, ordered, spliceFrom?, render_nil, List.append_nil, byteLength_append,
      hend, List.map_nil, fill, List.append_nil]
  | cons piece rest ih =>
    cases piece with
    | char c =>
      have hkept := ih front (kept ++ [c]) values
      rw [byteLength_append, ← Nat.add_assoc, List.append_assoc, List.append_assoc] at hkept
      rw [placeholdersFrom, render_cons, Piece.text, List.map_cons, Piece.part, fill]
      exact hkept
    | slot inner =>
      -- What is put in goes behind what was kept, and the cursor behind the slot.
      have hput : ∀ value values',
          spliceFrom? (front ++ (kept ++ (angle.text inner ++ render angle rest)))
              (byteLength front) (⟨⟨inner, byteLength front + byteLength kept⟩, value⟩ ::
                ordered own (placeholdersFrom (byteLength front + byteLength kept +
                  byteLength (angle.text inner)) rest) values') =
            some (kept ++ (value ++ fill (rest.map (Piece.part own)) values')) := by
        intro value values'
        have hbehind := ih (front ++ (kept ++ angle.text inner)) [] values'
        rw [byteLength_append, byteLength_append, byteLength, Nat.add_zero, List.nil_append,
          List.nil_append, List.append_assoc, List.append_assoc, ← Nat.add_assoc] at hbehind
        rw [spliceFrom?_cons, hbehind, Option.map_some, List.append_assoc]
      rw [placeholdersFrom, render_cons, Piece.text, List.map_cons, Piece.part]
      cases hown : own inner with
      | some value =>
        rw [ordered_own (by exact hown), hput, fill]
      | none =>
        cases values with
        | cons value values =>
          rw [ordered_cons (by exact hown), hput, fill]
        | nil =>
          have hkept := ih front (kept ++ angle.text inner) []
          rw [byteLength_append, ← Nat.add_assoc, List.append_assoc, List.append_assoc] at hkept
          rw [ordered_nil (by exact hown), fill]
          exact hkept

theorem splice?_ordered (template : List Char) (values : List (List Char)) :
    splice? template (ordered own (placeholders template) values) =
      some (fill ((pieces angle template).map (Piece.part own)) values) := by
  have h := spliceFrom?_ordered own [] [] (pieces angle template) values
  rwa [render_pieces] at h

/-! ## Collecting and sorting -/

variable (own) in
/-- Two rounds, one over the slots with texts of their own and one over the others, bring the same
substitutes as one pass. -/
theorem ordered_perm (ps : List Placeholder) (values : List (List Char)) :
    (ordered own ps values).Perm
      ((ps.filterMap fun p => (own p.inner).map (Substitute.mk p)) ++
        (ps.filter fun p => (own p.inner).isNone).zipWith Substitute.mk values) := by
  induction ps generalizing values with
  | nil => exact .refl _
  | cons p rest ih =>
    rw [List.filterMap_cons, List.filter_cons]
    cases hown : own p.inner with
    | some value =>
      rw [ordered_own hown]
      exact (ih values).cons _
    | none =>
      cases values with
      | nil =>
        have hrest := ih []
        rw [List.zipWith_nil_right] at hrest
        rw [ordered_nil hown, List.zipWith_nil_right]
        exact hrest
      | cons value values =>
        rw [ordered_cons hown]
        exact ((ih values).cons _).trans List.perm_middle.symm

variable (own) in
theorem slots_ordered_sublist (ps : List Placeholder) (values : List (List Char)) :
    ((ordered own ps values).map Substitute.slot).Sublist ps := by
  induction ps generalizing values with
  | nil => exact List.nil_sublist []
  | cons p rest ih =>
    cases hown : own p.inner with
    | some value =>
      rw [ordered_own hown]
      exact (ih values).cons_cons p
    | none =>
      cases values with
      | nil =>
        rw [ordered_nil hown]
        exact (ih []).cons p
      | cons value values =>
        rw [ordered_cons hown]
        exact (ih values).cons_cons p

/-- Placeholders come by ascending places, and so do their substitutes. -/
theorem ordered_ascending (template : List Char) (values : List (List Char)) :
    (ordered own (placeholders template) values).Pairwise
      fun a b => a.slot.start < b.slot.start := by
  have hplaces : (placeholders template).Pairwise fun p q => p.start < q.start :=
    ((exact_iff template _).2 rfl).apart.imp fun h => h.1
  have hslots := hplaces.sublist (slots_ordered_sublist own _ values)
  rwa [List.pairwise_map] at hslots

end Ordered

/-- Whether a substitute may stand in front of another one. -/
abbrev Substitute.NotBehind (a b : Substitute) : Prop := a.slot.start ≤ b.slot.start

instance : Std.Total Substitute.NotBehind := ⟨fun _ _ => Nat.le_total ..⟩

instance : IsTrans Substitute Substitute.NotBehind := ⟨fun _ _ _ => Nat.le_trans⟩

theorem insertByPlace_eq (s : Substitute) (found : List Substitute) :
    insertByPlace s found = found.orderedInsert Substitute.NotBehind s := by
  induction found with
  | nil => rfl
  | cons t rest ih => rw [insertByPlace, List.orderedInsert, ih]

theorem byPlace_eq (found : List Substitute) :
    byPlace found = found.insertionSort Substitute.NotBehind := by
  induction found with
  | nil => rfl
  | cons s rest ih =>
    change insertByPlace s (byPlace rest) = _
    rw [ih, insertByPlace_eq, List.insertionSort_cons]

/-- Substitutes for different places are sorted in one way only. -/
theorem byPlace_eq_of_perm {found sorted : List Substitute} (h : found.Perm sorted)
    (hsorted : sorted.Pairwise fun a b => a.slot.start < b.slot.start) :
    byPlace found = sorted := by
  rw [byPlace_eq]
  have hperm := (List.perm_insertionSort Substitute.NotBehind found).trans h
  have hascending := List.pairwise_insertionSort Substitute.NotBehind found
  have hplaces : (sorted.map fun a => a.slot.start).Nodup :=
    List.pairwise_map.2 (hsorted.imp Nat.ne_of_lt)
  refine hperm.eq_of_pairwise (fun a b ha hb hab hba => ?_) hascending (hsorted.imp Nat.le_of_lt)
  exact List.inj_on_of_nodup_map hplaces (hperm.subset ha) hb (Nat.le_antisymm hab hba)

/-! ## Replacement queries -/

theorem part_none : Piece.part (fun _ => none) = Piece.slotPart := by
  funext piece
  cases piece <;> rfl

theorem ordered_none (ps : List Placeholder) (values : List (List Char)) :
    ordered (fun _ => none) ps values = ps.zipWith Substitute.mk values := by
  induction ps generalizing values with
  | nil => rfl
  | cons p rest ih =>
    cases values with
    | nil => rw [ordered_nil rfl, ih, List.zipWith_nil_right, List.zipWith_nil_right]
    | cons value values => rw [ordered_cons rfl, ih, List.zipWith_cons_cons]

/-- A replacement query is filled in a single pass. -/
theorem fillQuery_eq (template : String) (arguments : List String) :
    fillQuery template arguments =
      let parts := (pieces angle template.toList).map Piece.slotPart
      let slots := parts.countP isHole
      if slots = arguments.length then
        .ok (String.ofList (fill parts (arguments.map String.toList)))
      else .error (.alternativeArgumentMismatch slots arguments.length) := by
  have hslots : ((pieces angle template.toList).map Piece.slotPart).countP isHole =
      (placeholders template.toList).length := countP_slotPart 0 _
  simp only [fillQuery, ← ordered_none, splice?_ordered, part_none, Option.getD_some, hslots]

end Shortcuts.Template
