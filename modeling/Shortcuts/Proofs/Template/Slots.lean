import Mathlib.Data.List.Forall2
import Shortcuts.Proofs.Template.Layout
import Shortcuts.Proofs.Text.Encoded
import Shortcuts.Sample

/-!
What is put into the slots of a template. Each text for a slot shows the argument that it stands
for, and nothing of it can be taken for a part of the url around it. Surplus arguments are shown
one by one in the last slot.
-/
namespace Shortcuts.Template

theorem shows_slotValues (slots : Nat) (arguments : List String) :
    List.Forall₂ Percent.Shows (slotValues slots arguments)
      (foldSurplus slots (arguments.map String.toList)) := by
  rw [slotValues, List.forall₂_map_left_iff, List.forall₂_same]
  exact fun text _ => Percent.shows_encode text

/-- The last slot has the surplus arguments encoded one by one. -/
theorem getElem?_slotValues_last {slots : Nat} {arguments : List String} (hslots : slots ≠ 0)
    (hmany : slots < arguments.length) :
    (slotValues slots arguments)[slots - 1]? = some (Text.join "%2C".toList
      ((arguments.drop (slots - 1)).map fun argument => Percent.encode argument.toList)) := by
  have hlength : ((arguments.map String.toList).take (slots - 1)).length = slots - 1 := by
    rw [List.length_take, List.length_map]
    omega
  have hfold : ¬ (slots = 0 ∨ (arguments.map String.toList).length ≤ slots) := by
    rw [List.length_map]
    omega
  rw [slotValues, foldSurplus, if_neg hfold, List.getElem?_map,
    List.getElem?_append_right (by omega), hlength, Nat.sub_self, List.getElem?_cons_zero,
    Option.map_some, Percent.encode_join, ← List.map_drop, List.map_map]
  rfl

/-- A filled template has nothing in its slots but texts that show the arguments: unreserved
characters where the arguments have them, and the other bytes of the arguments in digits. -/
theorem Setting.expand_shows (s : Setting) (template : String) (arguments : List String) :
    let slots := (argumentNames template.toList).length
    let written := slotValues slots arguments
    (∀ url, s.expand template arguments = .ok url → url.toList =
      (layout template.toList).write s.valueText
        fun j inner => written[j]?.getD (angle.text inner)) ∧
    List.Forall₂ Percent.Shows written (foldSurplus slots (arguments.map String.toList)) ∧
    (slots ≠ 0 → slots < arguments.length → written[slots - 1]? = some (Text.join "%2C".toList
      ((arguments.drop (slots - 1)).map fun argument => Percent.encode argument.toList))) ∧
    (∀ front back, Percent.encode (front ++ back) = Percent.encode front ++ Percent.encode back) ∧
    Function.Injective Percent.encode := by
  intro slots written
  refine ⟨fun url h => ?_, shows_slotValues slots arguments, getElem?_slotValues_last,
    Percent.encode_append, Percent.encode_injective⟩
  exact (Setting.of_expand h).2

end Shortcuts.Template

namespace Shortcuts.Sample

/-- Texts that would add a parameter, end a tag or decode to something else if they were put in
as they are. -/
def hostile : List String := ["ü&b=1#", "%41 (~)", "</a>"]

theorem hostile_shown :
    (environment.setting clock).expand "https://x.example/<a>?b=<b>" hostile =
      .ok "https://x.example/%C3%BC%26b%3D1%23?b=%2541%20(~)%2C%3C%2Fa%3E" ∧
    "https://x.example/%C3%BC%26b%3D1%23?b=%2541%20(~)%2C%3C%2Fa%3E".toList =
      (Template.layout "https://x.example/<a>?b=<b>".toList).write
        (environment.setting clock).valueText (fun j inner =>
          (Template.slotValues 2 hostile)[j]?.getD (Template.angle.text inner)) ∧
    (Template.slotValues 2 hostile)[1]? = some (Text.join "%2C".toList
      ["%2541%20(~)".toList, "%3C%2Fa%3E".toList]) := by
  have hexpand : (environment.setting clock).expand "https://x.example/<a>?b=<b>" hostile =
      .ok "https://x.example/%C3%BC%26b%3D1%23?b=%2541%20(~)%2C%3C%2Fa%3E" := by
    rw [Template.Setting.expand_eq]
    rfl
  have hslots : (Template.argumentNames "https://x.example/<a>?b=<b>".toList).length = 2 := by
    decide +kernel
  have hshown := (environment.setting clock).expand_shows "https://x.example/<a>?b=<b>" hostile
  rw [hslots] at hshown
  obtain ⟨hurl, _, hlast, _⟩ := hshown
  refine ⟨hexpand, hurl _ hexpand, (hlast (by decide) (by decide)).trans ?_⟩
  decide +kernel

end Shortcuts.Sample
