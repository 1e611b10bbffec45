import Shortcuts.Proofs.Template.Scan

/-!
Where placeholders stand. The placeholders of a template have places between its characters, one
behind the other, and no opening bracket is left outside them that could open one more. Nothing
else can be said of them that other placeholders would not contradict: there are no others of
which this is true.
-/
namespace Shortcuts.Template

/-! ## Places -/

@[simp] theorem byteLength_append (front back : List Char) :
    byteLength (front ++ back) = byteLength front + byteLength back := by
  induction front with
  | nil => exact (Nat.zero_add _).symm
  | cons c rest ih => rw [List.cons_append, byteLength, byteLength, ih, Nat.add_assoc]

theorem eq_nil_of_byteLength {text : List Char} (h : byteLength text = 0) : text = [] := by
  cases text with
  | nil => rfl
  | cons c rest =>
    have hpos := c.utf8Size_pos
    rw [byteLength] at h
    omega

/-- Of two beginnings of a text the one that is not longer is the beginning of the other. -/
theorem exists_of_byteLength_le {front back front' back' : List Char}
    (h : front ++ back = front' ++ back') (hle : byteLength front ≤ byteLength front') :
    ∃ between, front' = front ++ between ∧ back = between ++ back' := by
  rcases List.append_eq_append_iff.1 h with ⟨between, hfront, hback⟩ | ⟨between, hfront, hback⟩
  · exact ⟨between, hfront, hback⟩
  · rw [hfront, byteLength_append] at hle
    have hnil : between = [] := eq_nil_of_byteLength (by omega)
    rw [hnil, List.append_nil] at hfront
    rw [hnil, List.nil_append] at hback
    exact ⟨[], by rw [hfront, List.append_nil], hback.symm⟩

namespace Placeholder

/-- An inner text between brackets. If it starts with a dollar sign it is a variable and has no
name, otherwise it is the name of an argument. -/
structure Formed (p : Placeholder) : Prop where
  pattern : p.pattern = '<' :: (p.inner ++ ['>'])
  inner : angle.Inner p.inner
  isVariable_iff : p.isVariable = true ↔ p.inner.head? = some '$'
  name?_eq : p.name? = if p.inner.head? = some '$' then none else some p.inner

theorem formed_of_inner {p : Placeholder} (h : angle.Inner p.inner) : p.Formed where
  pattern := rfl
  inner := h
  isVariable_iff := by simp [isVariable, Template.isVariable]
  name?_eq := by simp [name?, isVariable, Template.isVariable]

theorem stop_mk (inner : List Char) (start : Nat) :
    (Placeholder.mk inner start).stop = start + byteLength (angle.text inner) := rfl

theorem start_lt_stop (p : Placeholder) : p.start < p.stop := by
  have hopen : '<'.utf8Size = 1 := by decide
  rw [stop, pattern, Marks.text, List.append_assoc, byteLength_append, angle, byteLength]
  omega

/-- The text at the place of a placeholder is its pattern. The text itself starts at an offset. -/
def Stands (offset : Nat) (text : List Char) (p : Placeholder) : Prop :=
  ∃ before behind, text = before ++ (p.pattern ++ behind) ∧ p.start = offset + byteLength before

variable {offset : Nat} {text : List Char} {p : Placeholder}

theorem Stands.le_start (h : p.Stands offset text) : offset ≤ p.start := by
  obtain ⟨before, behind, _, hstart⟩ := h
  omega

theorem Stands.stop_le (h : p.Stands offset text) : p.stop ≤ offset + byteLength text := by
  obtain ⟨before, behind, rfl, hstart⟩ := h
  rw [stop, byteLength_append, byteLength_append]
  omega

theorem Stands.append (front : List Char) (h : p.Stands (offset + byteLength front) text) :
    p.Stands offset (front ++ text) := by
  obtain ⟨before, behind, rfl, hstart⟩ := h
  refine ⟨front ++ before, behind, by rw [List.append_assoc], ?_⟩
  rw [hstart, byteLength_append, Nat.add_assoc]

/-- A placeholder that starts no earlier than some text behind the beginning stands in that text. -/
theorem Stands.of_append {front : List Char} (h : p.Stands offset (front ++ text))
    (hle : offset + byteLength front ≤ p.start) : p.Stands (offset + byteLength front) text := by
  obtain ⟨before, behind, htext, hstart⟩ := h
  obtain ⟨between, rfl, hrest⟩ := exists_of_byteLength_le htext (by omega)
  refine ⟨between, behind, hrest, ?_⟩
  rw [hstart, byteLength_append, Nat.add_assoc]

theorem Stands.eq_of_start (h : p.Stands offset text) (hstart : p.start = offset) :
    ∃ behind, text = p.pattern ++ behind := by
  obtain ⟨before, behind, rfl, hbefore⟩ := h
  have hnil : before = [] := eq_nil_of_byteLength (by omega)
  exact ⟨behind, by rw [hnil, List.nil_append]⟩

end Placeholder

/-! ## Exactness -/

/-- These are the placeholders of a text whose first character is at an offset. -/
structure Exact (offset : Nat) (text : List Char) (ps : List Placeholder) : Prop where
  formed : ∀ p ∈ ps, p.Formed
  stands : ∀ p ∈ ps, p.Stands offset text
  inside : ∀ p ∈ ps, offset ≤ p.start ∧ p.stop ≤ offset + byteLength text
  apart : ps.Pairwise fun p q => p.start < q.start ∧ p.stop ≤ q.start
  /-- A bracket outside all of them is closed at once or never. -/
  complete : ∀ before behind, text = before ++ '<' :: behind →
    (∀ p ∈ ps, offset + byteLength before < p.start ∨ p.stop ≤ offset + byteLength before) →
    behind.head? = some '>' ∨ '>' ∉ behind

namespace Exact

variable {offset : Nat} {ps : List Placeholder}

theorem nil : Exact offset [] [] where
  formed := List.forall_mem_nil _
  stands := List.forall_mem_nil _
  inside := List.forall_mem_nil _
  apart := .nil
  complete before behind h _ := by simp at h

theorem eq_nil (h : Exact offset [] ps) : ps = [] := by
  refine List.eq_nil_iff_forall_not_mem.2 fun p hp => ?_
  have hstands := h.inside p hp
  have hlt := p.start_lt_stop
  rw [byteLength] at hstands
  omega

section Char

variable {c : Char} {rest : List Char}

theorem cons (hslot : angle.slot? (c :: rest) = none) (h : Exact (offset + c.utf8Size) rest ps) :
    Exact offset (c :: rest) ps where
  formed := h.formed
  stands p hp := (h.stands p hp).append [c]
  inside p hp := by
    have hp := h.inside p hp
    rw [byteLength]
    omega
  apart := h.apart
  complete before behind htext hout := by
    cases before with
    | nil =>
      obtain ⟨rfl, rfl⟩ := List.cons.inj htext
      exact (slot?_angle_eq_none_iff _ _).1 hslot rfl
    | cons d before =>
      obtain ⟨rfl, hrest⟩ := List.cons.inj htext
      rw [byteLength, ← Nat.add_assoc] at hout
      exact h.complete before behind hrest hout

theorem of_cons (hslot : angle.slot? (c :: rest) = none) (h : Exact offset (c :: rest) ps) :
    Exact (offset + c.utf8Size) rest ps := by
  have hstands : ∀ p ∈ ps, p.Stands (offset + c.utf8Size) rest := by
    intro p hp
    obtain ⟨before, behind, htext, hstart⟩ := h.stands p hp
    cases before with
    | nil =>
      -- the pattern would be a slot right here
      rw [List.nil_append, Placeholder.pattern] at htext
      rw [htext, Marks.slot?_text_append (h.formed p hp).inner] at hslot
      cases hslot
    | cons d before =>
      obtain ⟨rfl, hrest⟩ := List.cons.inj htext
      exact ⟨before, behind, hrest, by rw [hstart, byteLength, Nat.add_assoc]⟩
  refine ⟨h.formed, hstands, fun p hp => ⟨(hstands p hp).le_start, (hstands p hp).stop_le⟩,
    h.apart, fun before behind hrest hout => ?_⟩
  refine h.complete (c :: before) behind (by rw [hrest, List.cons_append]) fun p hp => ?_
  rw [byteLength, ← Nat.add_assoc]
  exact hout p hp

end Char

section Slot

variable {inner rest : List Char} (hinner : angle.Inner inner)

include hinner

theorem slot (h : Exact (offset + byteLength (angle.text inner)) rest ps) :
    Exact offset (angle.text inner ++ rest) (⟨inner, offset⟩ :: ps) where
  formed := List.forall_mem_cons.2 ⟨Placeholder.formed_of_inner hinner, h.formed⟩
  stands := List.forall_mem_cons.2
    ⟨⟨[], rest, rfl, rfl⟩, fun p hp => (h.stands p hp).append (angle.text inner)⟩
  inside := by
    rw [byteLength_append]
    refine List.forall_mem_cons.2 ⟨⟨Nat.le_refl _, ?_⟩, fun p hp => ?_⟩
    · rw [Placeholder.stop_mk]
      omega
    · have hp := h.inside p hp
      omega
  apart := by
    refine List.pairwise_cons.2 ⟨fun p hp => ?_, h.apart⟩
    have hlt := Placeholder.start_lt_stop ⟨inner, offset⟩
    have hle : (Placeholder.mk inner offset).stop ≤ p.start := (h.inside p hp).1
    exact ⟨Nat.lt_of_lt_of_le hlt hle, hle⟩
  complete before behind htext hout := by
    rw [List.forall_mem_cons, Placeholder.stop_mk] at hout
    obtain ⟨hfirst, hothers⟩ := hout
    have hle : byteLength (angle.text inner) ≤ byteLength before := by
      dsimp only at hfirst
      omega
    obtain ⟨between, rfl, hrest⟩ := exists_of_byteLength_le htext hle
    rw [byteLength_append, ← Nat.add_assoc] at hothers
    exact h.complete between behind hrest hothers

/-- The bracket that opens a slot is not outside, so something starts with it. -/
theorem exists_first (h : Exact offset (angle.text inner ++ rest) ps) :
    ∃ p ∈ ps, p.start = offset := by
  refine Classical.byContradiction fun hnone => ?_
  have hout : ∀ p ∈ ps, offset + byteLength [] < p.start ∨ p.stop ≤ offset + byteLength [] := by
    intro p hp
    have hle := (h.inside p hp).1
    have hne : p.start ≠ offset := fun heq => hnone ⟨p, hp, heq⟩
    rw [byteLength]
    omega
  obtain ⟨hne, hclosing⟩ := hinner
  rcases h.complete [] _ (angle_text_append inner rest) hout with hhead | habsent
  · cases inner with
    | nil => exact hne rfl
    | cons c others =>
      obtain rfl : c = '>' := by simpa using hhead
      exact hclosing (List.mem_cons_self ..)
  · exact habsent (by simp)

theorem of_text_append (h : Exact offset (angle.text inner ++ rest) ps) :
    ∃ others, ps = ⟨inner, offset⟩ :: others ∧
      Exact (offset + byteLength (angle.text inner)) rest others := by
  obtain ⟨p, hp, hstart⟩ := h.exists_first hinner
  -- two slots at one place are the same
  have hslot : p = ⟨inner, offset⟩ := by
    obtain ⟨behind, htext⟩ := (h.stands p hp).eq_of_start hstart
    have hsome := Marks.slot?_text_append hinner rest
    rw [htext, Placeholder.pattern, Marks.slot?_text_append (h.formed p hp).inner] at hsome
    obtain ⟨inner', start⟩ := p
    obtain rfl : inner' = inner := Option.some.inj hsome
    obtain rfl : start = offset := hstart
    rfl
  cases ps with
  | nil => cases hp
  | cons q others =>
    obtain ⟨hfirst, hothers⟩ := List.pairwise_cons.1 h.apart
    have hq : q = p := by
      refine ((List.mem_cons.1 hp).resolve_right fun hmem => ?_).symm
      have hbehind := hfirst p hmem
      have hle := (h.inside q (List.mem_cons_self ..)).1
      omega
    rw [hslot] at hq
    subst hq
    refine ⟨others, rfl, ?_⟩
    have hstands : ∀ r ∈ others, r.Stands (offset + byteLength (angle.text inner)) rest :=
      fun r hr => (h.stands r (List.mem_cons_of_mem _ hr)).of_append (hfirst r hr).2
    refine ⟨fun r hr => h.formed r (List.mem_cons_of_mem _ hr), hstands,
      fun r hr => ⟨(hstands r hr).le_start, (hstands r hr).stop_le⟩, hothers,
      fun before behind hrest hout => ?_⟩
    refine h.complete (angle.text inner ++ before) behind (by rw [hrest, List.append_assoc]) ?_
    rw [byteLength_append, ← Nat.add_assoc]
    exact List.forall_mem_cons.2 ⟨.inr (Nat.le_add_right _ _), hout⟩

end Slot

end Exact

theorem exact_iff_placeholdersFrom (offset : Nat) (text : List Char) (ps : List Placeholder) :
    Exact offset text ps ↔ ps = placeholdersFrom offset (pieces angle text) := by
  induction text using scanInduction angle generalizing offset ps with
  | nil =>
    constructor
    · exact Exact.eq_nil
    · rintro rfl
      exact .nil
  | char c rest hslot ih =>
    rw [pieces_cons hslot, placeholdersFrom, ← ih]
    exact ⟨.of_cons hslot, .cons hslot⟩
  | slot inner rest hinner ih =>
    rw [pieces_text_append hinner, placeholdersFrom]
    constructor
    · intro h
      obtain ⟨others, rfl, hothers⟩ := h.of_text_append hinner
      rw [(ih _ _).1 hothers]
    · rintro rfl
      exact .slot hinner ((ih _ _).2 rfl)

/-- The scan of a template is exact, and nothing but its placeholders is. -/
theorem exact_iff (template : List Char) (ps : List Placeholder) :
    Exact 0 template ps ↔ ps = placeholders template :=
  exact_iff_placeholdersFrom 0 template ps

example : placeholders "<>ü<<a>b<$c\n>d<e".toList =
    [⟨"<a".toList, 4⟩, ⟨"$c\n".toList, 9⟩] := by decide +kernel

end Shortcuts.Template
