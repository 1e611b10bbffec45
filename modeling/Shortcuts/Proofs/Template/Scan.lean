import Shortcuts.Template.Placeholder

/-!
Scanning a text into pieces and rendering pieces as text undo each other: the pieces of a text
render to the text, and pieces are found again in what they render to unless a slot starts at a
place where they have none. Slots that are replaced by texts without an opening bracket leave the
other pieces where they are.
-/
namespace Shortcuts.Template

def render (m : Marks) (ps : List Piece) : List Char := ps.flatMap (Piece.text m)

@[simp] theorem render_nil (m : Marks) : render m [] = [] := rfl

@[simp] theorem render_cons (m : Marks) (p : Piece) (ps : List Piece) :
    render m (p :: ps) = p.text m ++ render m ps := List.flatMap_cons

@[simp] theorem render_append (m : Marks) (ps qs : List Piece) :
    render m (ps ++ qs) = render m ps ++ render m qs := List.flatMap_append

@[simp] theorem render_chars (m : Marks) (text : List Char) :
    render m (text.map Piece.char) = text := by
  induction text with
  | nil => rfl
  | cons c rest ih => simp [Piece.text, ih]

/-! ## Finding one slot -/

namespace Marks

/-- What may stand between the marks of a slot. -/
structure Inner (m : Marks) (inner : List Char) : Prop where
  ne_nil : inner ≠ []
  closing_notMem : m.closing ∉ inner

instance (m : Marks) (inner : List Char) : Decidable (m.Inner inner) :=
  decidable_of_iff (inner ≠ [] ∧ m.closing ∉ inner) ⟨fun h => ⟨h.1, h.2⟩, fun h => ⟨h.1, h.2⟩⟩

theorem slot?_text_append {m : Marks} {inner : List Char} (h : m.Inner inner)
    (rest : List Char) : m.slot? (m.text inner ++ rest) = some inner := by
  have hopen : m.opening.isPrefixOf (m.text inner ++ rest) = true := by
    rw [text, List.append_assoc, List.append_assoc]
    exact List.isPrefixOf_iff_prefix.2 (List.prefix_append ..)
  have hbehind : (m.text inner ++ rest).drop m.opening.length = inner ++ m.closing :: rest := by
    simp [text]
  have hkeep : ∀ c ∈ inner, decide (c ≠ m.closing) = true := by
    intro c hc
    exact decide_eq_true fun heq => h.closing_notMem (heq ▸ hc)
  have htake : (inner ++ m.closing :: rest).takeWhile (· ≠ m.closing) = inner := by
    rw [List.takeWhile_append_of_pos hkeep]
    simp
  have hdrop : (inner ++ m.closing :: rest).dropWhile (· ≠ m.closing) = m.closing :: rest := by
    rw [List.dropWhile_append_of_pos hkeep]
    simp
  have hne := h.ne_nil
  simp only [slot?, hopen, hbehind, htake, hdrop]
  simp [hne]

/-- A slot starts with nothing but the first character of its opening mark. -/
theorem slot?_of_head_ne {m : Marks} {o c : Char} (hopen : m.opening.head? = some o) (hc : c ≠ o)
    (rest : List Char) : m.slot? (c :: rest) = none := by
  obtain ⟨others, hothers⟩ := List.head?_eq_some_iff.1 hopen
  have hprefix : ¬ m.opening <+: c :: rest := by
    rw [hothers, List.cons_prefix_cons]
    exact fun h => hc h.1.symm
  rw [slot?, if_neg (mt List.isPrefixOf_iff_prefix.1 hprefix)]

theorem slot?_eq_some {m : Marks} {text inner : List Char} (h : m.slot? text = some inner) :
    m.Inner inner ∧ ∃ rest, text = m.text inner ++ rest := by
  unfold slot? at h
  split at h
  · rename_i hopen
    obtain ⟨behind, rfl⟩ := List.isPrefixOf_iff_prefix.1 hopen
    rw [List.drop_left] at h
    simp only at h
    split at h
    · cases h
    · rename_i hcond
      obtain rfl := Option.some.inj h
      rw [Bool.or_eq_true, not_or] at hcond
      obtain ⟨hinner, hclosing⟩ := hcond
      have hsplit := List.takeWhile_append_dropWhile (p := fun c => decide (c ≠ m.closing))
        (l := behind)
      have hhead := List.head?_dropWhile_not (fun c => decide (c ≠ m.closing)) behind
      cases hrest : behind.dropWhile fun c => decide (c ≠ m.closing) with
      | nil => exact absurd (List.isEmpty_iff.2 hrest) hclosing
      | cons c rest =>
        rw [hrest] at hsplit hhead
        obtain rfl : c = m.closing := by simpa using hhead
        refine ⟨⟨mt List.isEmpty_iff.2 hinner, fun hmem => ?_⟩, rest, ?_⟩
        · have hkept := List.all_eq_true.1 List.all_takeWhile _ hmem
          simp at hkept
        · rw [text, List.append_assoc, List.append_assoc, List.singleton_append, hsplit]
  · cases h

end Marks

/-! ## Scanning -/

section Scanning

variable (m : Marks)

theorem piecesFrom_eq (skip : Nat) (text : List Char) :
    piecesFrom m skip text = pieces m (text.drop skip) := by
  induction text generalizing skip with
  | nil => simp [pieces, piecesFrom]
  | cons c rest ih =>
    cases skip with
    | zero => rfl
    | succ skip => exact ih skip

variable {m}

theorem pieces_cons {c : Char} {rest : List Char} (h : m.slot? (c :: rest) = none) :
    pieces m (c :: rest) = .char c :: pieces m rest := by
  rw [pieces, piecesFrom, h]
  rfl

theorem pieces_text_append {inner : List Char} (h : m.Inner inner) (rest : List Char) :
    pieces m (m.text inner ++ rest) = .slot inner :: pieces m rest := by
  cases htext : m.text inner with
  | nil => simp [Marks.text] at htext
  | cons c behind =>
    have hslot : m.slot? (c :: (behind ++ rest)) = some inner := by
      rw [← List.cons_append, ← htext]
      exact Marks.slot?_text_append h rest
    rw [List.cons_append, pieces, piecesFrom, hslot]
    simp only
    rw [piecesFrom_eq, htext, List.length_cons, Nat.add_sub_cancel, List.drop_left]

/-- Induction over a text piece by piece. -/
@[elab_as_elim]
theorem scanInduction (m : Marks) {P : List Char → Prop} (nil : P [])
    (char : ∀ c rest, m.slot? (c :: rest) = none → P rest → P (c :: rest))
    (slot : ∀ inner rest, m.Inner inner → P rest → P (m.text inner ++ rest))
    (text : List Char) : P text := by
  induction hn : text.length using Nat.strongRecOn generalizing text with
  | ind n ih =>
    cases text with
    | nil => exact nil
    | cons c rest =>
      cases hslot : m.slot? (c :: rest) with
      | none => exact char c rest hslot (ih rest.length (by simp [← hn]) rest rfl)
      | some inner =>
        obtain ⟨hinner, behind, heq⟩ := Marks.slot?_eq_some hslot
        have hshorter : behind.length < n := by
          have hlength := congrArg List.length heq
          simp only [Marks.text, List.length_append, List.length_singleton] at hlength
          omega
        rw [heq]
        exact slot inner behind hinner (ih behind.length hshorter behind rfl)

/-- Nothing is lost in a scan. -/
theorem render_pieces (m : Marks) (text : List Char) : render m (pieces m text) = text := by
  induction text using scanInduction m with
  | nil => rfl
  | char c rest h ih =>
    rw [pieces_cons h, render_cons, ih]
    rfl
  | slot inner rest h ih =>
    rw [pieces_text_append h, render_cons, ih]
    rfl

variable (m)

/-- Pieces whose slots are the ones that a scan finds: at no character does a slot start. -/
inductive Scanned : List Piece → Prop
  | nil : Scanned []
  | char {c ps} (h : m.slot? (c :: render m ps) = none) (rest : Scanned ps) :
      Scanned (.char c :: ps)
  | slot {inner ps} (h : m.Inner inner) (rest : Scanned ps) : Scanned (.slot inner :: ps)

theorem scanned_pieces (text : List Char) : Scanned m (pieces m text) := by
  induction text using scanInduction m with
  | nil => exact .nil
  | char c rest h ih =>
    rw [pieces_cons h]
    exact .char (by rwa [render_pieces]) ih
  | slot inner rest h ih =>
    rw [pieces_text_append h]
    exact .slot h ih

variable {m}

theorem Scanned.pieces_render {ps : List Piece} (h : Scanned m ps) :
    pieces m (render m ps) = ps := by
  induction h with
  | nil => rfl
  | @char c ps h rest ih =>
    change pieces m (c :: render m ps) = _
    rw [pieces_cons h, ih]
  | @slot inner ps h rest ih =>
    change pieces m (m.text inner ++ render m ps) = _
    rw [pieces_text_append h, ih]

/-- Texts without the character that opens slots leave the slots behind them where they are. -/
theorem Scanned.chars_append {o : Char} (hopen : m.opening.head? = some o) {text : List Char}
    (htext : o ∉ text) {ps : List Piece} (h : Scanned m ps) :
    Scanned m (text.map .char ++ ps) := by
  induction text with
  | nil => exact h
  | cons c rest ih =>
    rw [List.mem_cons, not_or] at htext
    exact .char (Marks.slot?_of_head_ne hopen (Ne.symm htext.1) _) (ih htext.2)

end Scanning

/-! ## Replacing slots -/

theorem angle_text_append (inner rest : List Char) :
    angle.text inner ++ rest = '<' :: (inner ++ '>' :: rest) := by
  simp [Marks.text, angle]

/-- Where no slot starts at an opening bracket, a closing one follows at once or not at all. -/
theorem slot?_angle_eq_none_iff (c : Char) (rest : List Char) :
    angle.slot? (c :: rest) = none ↔ (c = '<' → rest.head? = some '>' ∨ '>' ∉ rest) := by
  constructor
  · rintro h rfl
    by_cases hmem : '>' ∈ rest
    · obtain ⟨inner, behind, rfl, hinner⟩ := List.eq_append_cons_of_mem hmem
      cases inner with
      | nil => exact .inl rfl
      | cons d inner =>
        have hslot : angle.slot? (angle.text (d :: inner) ++ behind) = some (d :: inner) :=
          Marks.slot?_text_append ⟨List.cons_ne_nil _ _, hinner⟩ behind
        rw [angle_text_append, h] at hslot
        cases hslot
    · exact .inr hmem
  · intro h
    cases hslot : angle.slot? (c :: rest) with
    | none => rfl
    | some inner =>
      obtain ⟨⟨hne, hclosing⟩, behind, heq⟩ := Marks.slot?_eq_some hslot
      rw [angle_text_append] at heq
      obtain ⟨rfl, rfl⟩ := List.cons.inj heq
      rcases h rfl with hhead | hnone
      · cases inner with
        | nil => exact absurd rfl hne
        | cons d inner =>
          obtain rfl : d = '>' := by simpa using hhead
          exact absurd (List.mem_cons_self ..) hclosing
      · exact absurd (by simp) hnone

/-- The second pieces are the first with texts in place of some slots. -/
inductive Replaced : List Piece → List Piece → Prop
  | nil : Replaced [] []
  | char {c ps qs} (rest : Replaced ps qs) : Replaced (.char c :: ps) (.char c :: qs)
  | slot {inner ps qs} (rest : Replaced ps qs) : Replaced (.slot inner :: ps) (.slot inner :: qs)
  | text {inner ps qs} {value : List Char} (h : '<' ∉ value) (rest : Replaced ps qs) :
      Replaced (.slot inner :: ps) (value.map .char ++ qs)

namespace Replaced

variable {ps qs : List Piece}

theorem head?_render (h : Replaced ps qs) (hhead : (render angle ps).head? = some '>') :
    (render angle qs).head? = some '>' := by
  cases h with
  | nil => simp at hhead
  | char rest => simpa [Piece.text] using hhead
  | slot rest => simp [Piece.text, angle_text_append] at hhead
  | text hvalue rest => simp [Piece.text, angle_text_append] at hhead

theorem eq_of_notMem (h : Replaced ps qs) (hnone : '>' ∉ render angle ps) : qs = ps := by
  induction h with
  | nil => rfl
  | char rest ih =>
    rw [render_cons, List.mem_append, not_or] at hnone
    rw [ih hnone.2]
  | slot rest ih => simp [Piece.text, angle_text_append] at hnone
  | text hvalue rest ih => simp [Piece.text, angle_text_append] at hnone

/-- Texts without an opening bracket neither open a slot nor close one. -/
theorem scanned (h : Replaced ps qs) (hps : Scanned angle ps) : Scanned angle qs := by
  induction h with
  | nil => exact .nil
  | @char c ps qs rest ih =>
    cases hps with
    | char hnone hps =>
      refine .char ?_ (ih hps)
      -- Only what stands behind the bracket counts: its first character stays if it closes, and a
      -- text without any closing bracket has no slots to replace.
      rw [slot?_angle_eq_none_iff] at hnone ⊢
      intro hc
      rcases hnone hc with hhead | habsent
      · exact .inl (rest.head?_render hhead)
      · rw [rest.eq_of_notMem habsent]
        exact .inr habsent
  | slot rest ih =>
    cases hps with
    | slot hinner hps => exact .slot hinner (ih hps)
  | text hvalue rest ih =>
    cases hps with
    | slot hinner hps => exact .chars_append rfl hvalue (ih hps)

end Replaced

end Shortcuts.Template
