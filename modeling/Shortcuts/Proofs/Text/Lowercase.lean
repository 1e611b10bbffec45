import Shortcuts.Text.Lowercase
import Shortcuts.Text.Pieces

/-!
Lower-casing a text that stands inside another one. Every character but the capital sigma is
lowered alike wherever it stands; the form of a sigma depends on the nearest characters around it
that are not ignorable. A text is steady if these lie inside it wherever they matter, and exactly
the steady texts are found again, lower-cased, in every lower-cased text that contains them.
-/
namespace Shortcuts.Text

theorem contains_iff {word text : List Char} : contains word text = true ↔ word <:+: text := by
  induction text with
  | nil => simp [contains]
  | cons c rest ih =>
    rw [contains, Bool.or_eq_true, List.isPrefixOf_iff_prefix, ih, List.infix_cons_iff]

/-! ## The next character with case -/

theorem meetsCased_cons (c : Char) (cs : List Char) :
    meetsCased (c :: cs) = if isCaseIgnorable c then meetsCased cs else isCased c := by
  rw [meetsCased, List.dropWhile_cons]
  by_cases h : isCaseIgnorable c = true
  · rw [if_pos h, if_pos h, meetsCased]
  · rw [if_neg h, if_neg h]

/-- What stands further on matters only behind ignorable characters. -/
theorem meetsCased_append (cs more : List Char) :
    meetsCased (cs ++ more) =
      if cs.all isCaseIgnorable then meetsCased more else meetsCased cs := by
  induction cs with
  | nil => rfl
  | cons c rest ih =>
    rw [List.cons_append, meetsCased_cons, meetsCased_cons, ih, List.all_cons]
    cases isCaseIgnorable c <;> rfl

theorem meetsCased_of_all {cs : List Char} (h : cs.all isCaseIgnorable = true) :
    meetsCased cs = false := by
  rw [← List.append_nil cs, meetsCased_append, if_pos h]
  rfl

/-! ## Lower-casing in place -/

/-- The form of a sigma between two texts, the first of which comes last character first. -/
def sigmaForm (before after : List Char) : Char :=
  if meetsCased before && !meetsCased after then 'ς' else 'σ'

/-- What a character becomes between two texts. -/
def loweredAt (before : List Char) (c : Char) (after : List Char) : List Char :=
  if c = 'Σ' then [sigmaForm before after]
  else if c = 'İ' then ['i', '\u0307']
  else [lowerChar c]

theorem lowerFrom_cons (before : List Char) (c : Char) (rest : List Char) :
    lowerFrom before (c :: rest) = loweredAt before c rest ++ lowerFrom (c :: before) rest := by
  rw [lowerFrom, loweredAt, sigmaForm]
  by_cases h : (meetsCased before && !meetsCased rest) = true <;> simp [h]

/-- What a text becomes between two texts. -/
def lowerBetween (before : List Char) : List Char → List Char → List Char
  | [], _ => []
  | c :: rest, after => loweredAt before c (rest ++ after) ++ lowerBetween (c :: before) rest after

theorem lowerFrom_append (before text after : List Char) :
    lowerFrom before (text ++ after) =
      lowerBetween before text after ++ lowerFrom (text.reverse ++ before) after := by
  induction text generalizing before with
  | nil => rfl
  | cons c rest ih =>
    rw [List.cons_append, lowerFrom_cons, ih, lowerBetween, List.append_assoc]
    simp

theorem lowercase_eq (text : List Char) : lowercase text = lowerBetween [] text [] := by
  rw [lowercase, ← List.append_nil text, lowerFrom_append]
  simp [lowerFrom]

theorem lowerBetween_append (before x y after : List Char) :
    lowerBetween before (x ++ y) after =
      lowerBetween before x (y ++ after) ++ lowerBetween (x.reverse ++ before) y after := by
  induction x generalizing before with
  | nil => rfl
  | cons c rest ih =>
    rw [List.cons_append, lowerBetween, ih, lowerBetween, List.append_assoc]
    simp

theorem length_lowerBetween (before before' text after after' : List Char) :
    (lowerBetween before text after).length = (lowerBetween before' text after').length := by
  induction text generalizing before before' with
  | nil => rfl
  | cons c rest ih =>
    rw [lowerBetween, lowerBetween, List.length_append, List.length_append,
      ih (c :: before) (c :: before'), loweredAt, loweredAt]
    split <;> rfl

/-- Of three texts in a row each is lowered between the others. -/
theorem lowercase_append (before text after : List Char) :
    lowercase (before ++ (text ++ after)) =
      lowerBetween [] before (text ++ after) ++ (lowerBetween before.reverse text after ++
        lowerBetween (text.reverse ++ before.reverse) after []) := by
  rw [lowercase_eq, lowerBetween_append, lowerBetween_append]
  simp

/-! ## Steady texts -/

/-- A sigma between these parts of a text has the same form whatever stands around the text. -/
structure SteadyAt (x y : List Char) : Prop where
  /-- Without anything in front that matters, a letter with case has to follow. -/
  start : x.all isCaseIgnorable = true → meetsCased y = true
  /-- Without anything behind that matters, what stands in front may not have case. -/
  stop : y.all isCaseIgnorable = true → meetsCased x.reverse = false

/-- Every capital sigma in the text has the same form whatever stands around the text. -/
def Steady (text : List Char) : Prop := ∀ x y, text = x ++ 'Σ' :: y → SteadyAt x y

theorem SteadyAt.sigmaForm_eq {x y : List Char} (h : SteadyAt x y) (before after : List Char) :
    sigmaForm (x.reverse ++ before) (y ++ after) = sigmaForm x.reverse y := by
  rw [sigmaForm, sigmaForm, meetsCased_append, meetsCased_append, List.all_reverse]
  by_cases hx : x.all isCaseIgnorable = true
  · have hafter := h.start hx
    have hy : ¬ y.all isCaseIgnorable = true := fun hy => by
      simp [meetsCased_of_all hy] at hafter
    simp [hy, hafter]
  · by_cases hy : y.all isCaseIgnorable = true
    · simp [hx, h.stop hy]
    · simp [hx, hy]

theorem Steady.lowerBetween_eq {text : List Char} (h : Steady text) (before after : List Char) :
    lowerBetween before text after = lowerBetween [] text [] := by
  have hrest : ∀ rest x, text = x ++ rest →
      lowerBetween (x.reverse ++ before) rest after = lowerBetween x.reverse rest [] := by
    intro rest
    induction rest with
    | nil => exact fun x _ => rfl
    | cons c rest ih =>
      intro x hx
      have hstep := ih (x ++ [c]) (by rw [hx, List.append_assoc]; rfl)
      rw [List.reverse_append, List.reverse_singleton, List.singleton_append,
        List.cons_append] at hstep
      rw [lowerBetween, lowerBetween, hstep, List.append_nil, loweredAt, loweredAt]
      by_cases hc : c = 'Σ'
      · subst hc
        rw [if_pos rfl, if_pos rfl, (h x rest hx).sigmaForm_eq]
      · rw [if_neg hc, if_neg hc]
  exact hrest text [] rfl

/-! ## Texts that are not steady -/

theorem lowerBetween_ne {x y before before' after after' : List Char}
    (h : sigmaForm (x.reverse ++ before) (y ++ after) ≠
      sigmaForm (x.reverse ++ before') (y ++ after')) :
    lowerBetween before (x ++ 'Σ' :: y) after ≠ lowerBetween before' (x ++ 'Σ' :: y) after' := by
  intro heq
  rw [lowerBetween_append, lowerBetween_append] at heq
  have hsigma := (List.append_inj heq (length_lowerBetween ..)).2
  rw [lowerBetween, lowerBetween, loweredAt, loweredAt, if_pos rfl, if_pos rfl] at hsigma
  exact h (List.cons.inj hsigma).1

theorem eq_or_head?_of_infix_cons {l l' : List Char} {c : Char} (hlength : l.length = l'.length)
    (h : l <:+: c :: l') : l = l' ∨ l.head? = some c := by
  rcases List.infix_cons_iff.1 h with hstart | hinside
  · cases l with
    | nil => exact .inl (List.length_eq_zero_iff.1 hlength.symm).symm
    | cons a rest => exact .inr (congrArg some (List.cons_prefix_cons.1 hstart).1)
  · exact .inl (hinside.eq_of_length hlength)

theorem eq_or_getLast?_of_infix_concat {l l' : List Char} {c : Char}
    (hlength : l.length = l'.length) (h : l <:+: l' ++ [c]) : l = l' ∨ l.getLast? = some c := by
  rw [← List.reverse_infix, List.reverse_append, List.reverse_singleton,
    List.singleton_append] at h
  rcases eq_or_head?_of_infix_cons (by simpa using hlength) h with heq | hhead
  · exact .inl (List.reverse_inj.1 heq)
  · exact .inr (by rwa [List.head?_reverse] at hhead)

theorem lowerBetween_singleton {k : Char} (hsigma : k ≠ 'Σ') (hdotted : k ≠ 'İ')
    (hlower : lowerChar k = k) (before after : List Char) :
    lowerBetween before [k] after = [k] := by
  rw [lowerBetween, lowerBetween, loweredAt, if_neg hsigma, if_neg hdotted, hlower]
  rfl

/-- A small letter other than the given one. -/
theorem exists_letter (avoided : Option Char) :
    ∃ k, avoided ≠ some k ∧ meetsCased [k] = true ∧
      ∀ before after, lowerBetween before [k] after = [k] := by
  by_cases ha : avoided = some 'a'
  · have hlower : lowerChar 'b' = 'b' := by decide +kernel
    exact ⟨'b', by simp [ha], by decide +kernel,
      lowerBetween_singleton (by decide) (by decide) hlower⟩
  · have hlower : lowerChar 'a' = 'a' := by decide +kernel
    exact ⟨'a', ha, by decide +kernel, lowerBetween_singleton (by decide) (by decide) hlower⟩

/-- A letter in front would let the sigma end a word, a letter behind would let it stand inside. -/
theorem SteadyAt.of_infix {x y : List Char}
    (h : ∀ before after, lowercase (x ++ 'Σ' :: y) <:+:
      lowercase (before ++ ((x ++ 'Σ' :: y) ++ after))) : SteadyAt x y := by
  have hlength : ∀ before after, (lowercase (x ++ 'Σ' :: y)).length =
      (lowerBetween before (x ++ 'Σ' :: y) after).length := by
    intro before after
    rw [lowercase_eq]
    exact length_lowerBetween ..
  constructor
  · intro hx
    refine Classical.byContradiction fun hy => ?_
    obtain ⟨k, hk, hcased, hlowered⟩ := exists_letter (lowercase (x ++ 'Σ' :: y)).head?
    have hinside := h [k] []
    rw [lowercase_append, hlowered, lowerBetween, List.append_nil] at hinside
    have heq := (eq_or_head?_of_infix_cons (hlength _ _) hinside).resolve_right hk
    rw [lowercase_eq] at heq
    refine lowerBetween_ne ?_ heq
    have hfront : x.reverse.all isCaseIgnorable = true := by rwa [List.all_reverse]
    rw [List.append_nil, List.append_nil, sigmaForm, sigmaForm, meetsCased_of_all hfront,
      meetsCased_append, if_pos hfront, List.reverse_singleton, hcased]
    simp [hy]
  · intro hy
    refine Classical.byContradiction fun hx => ?_
    obtain ⟨k, hk, hcased, hlowered⟩ := exists_letter (lowercase (x ++ 'Σ' :: y)).getLast?
    have hinside := h [] [k]
    rw [lowercase_append, hlowered, lowerBetween, List.nil_append] at hinside
    have heq := (eq_or_getLast?_of_infix_concat (hlength _ _) hinside).resolve_right hk
    rw [lowercase_eq] at heq
    refine lowerBetween_ne ?_ heq
    rw [List.append_nil, List.append_nil, sigmaForm, sigmaForm, meetsCased_of_all hy,
      List.reverse_nil, List.append_nil, meetsCased_append, if_pos hy, hcased]
    simp [hx]

/-- Exactly the steady texts are found again in every text that contains them, all lower-cased. -/
theorem steady_iff (text : List Char) :
    Steady text ↔
      ∀ before after, lowercase text <:+: lowercase (before ++ (text ++ after)) := by
  constructor
  · intro h before after
    rw [lowercase_append, h.lowerBetween_eq, ← lowercase_eq]
    exact ⟨_, _, List.append_assoc ..⟩
  · rintro h x y rfl
    exact SteadyAt.of_infix h

end Shortcuts.Text
