import Shortcuts.Proofs.Entry.Written

/-!
Reading entries with and without patience. Each entry is read on its own, so a malformed one is
left out and changes nothing for the others. Where none is malformed, reading all of them or none
gives the same entries.
-/
namespace Shortcuts

namespace Entries

variable {α β : Type} {f : α → Option β} {entries : List (String × α)}

/-- Changing all values is changing those that can be changed, if these are all. -/
theorem mapAll?_eq_some_iff {changed : List (String × β)} :
    mapAll? f entries = some changed ↔
      (∀ e ∈ entries, ∃ b, f e.2 = some b) ∧ changed = filterMap (fun _ a => f a) entries := by
  induction entries generalizing changed with
  | nil => simp [mapAll?, filterMap, eq_comm]
  | cons e rest ih =>
    obtain ⟨key, a⟩ := e
    rw [mapAll?, filterMap, List.forall_mem_cons]
    cases f a with
    | none =>
      constructor
      · intro h
        cases h
      · rintro ⟨⟨⟨b, hb⟩, _⟩, _⟩
        cases hb
    | some b =>
      cases hrest : mapAll? f rest with
      | none =>
        constructor
        · intro h
          cases h
        · rintro ⟨⟨_, hall⟩, _⟩
          have hsome := ih.2 ⟨hall, rfl⟩
          rw [hrest] at hsome
          cases hsome
      | some others =>
        obtain ⟨hall, rfl⟩ := ih.1 hrest
        dsimp only
        rw [Option.some.injEq, eq_comm]
        constructor
        · intro h
          exact ⟨⟨⟨b, rfl⟩, hall⟩, h⟩
        · intro h
          exact h.2

end Entries

namespace EntryMap

/-- Each of the raw entries can be read. -/
def WellFormed (raw : Table Json) : Prop :=
  ∀ key value, raw.get? key = some value → ∃ e, Entry.ofJson? value = some e

theorem wellFormed_iff (raw : Table Json) :
    WellFormed raw ↔ ∀ e ∈ raw.entries, ∃ entry, Entry.ofJson? e.2 = some entry := by
  constructor
  · intro h e he
    exact h e.1 e.2 ((raw.get?_eq_some_iff e.1 e.2).2 he)
  · intro h key value hvalue
    exact h (key, value) ((raw.get?_eq_some_iff key value).1 hvalue)

theorem strict?_eq_some_iff {raw : Table Json} {entries : EntryMap} :
    strict? raw = some entries ↔ WellFormed raw ∧ entries = lenient raw := by
  have hlenient : ∀ changed, Entries.mapAll? Entry.ofJson? raw.entries = some changed ↔
      WellFormed raw ∧ changed = (lenient raw).entries := by
    intro changed
    rw [Entries.mapAll?_eq_some_iff, wellFormed_iff]
    rfl
  rw [strict?, Table.mapAll?]
  split
  · rename_i changed hchanged
    obtain ⟨hall, rfl⟩ := (hlenient changed).1 hchanged
    rw [Option.some.injEq, eq_comm]
    exact ⟨fun h => ⟨hall, h⟩, fun h => h.2⟩
  · rename_i hnone
    have hnot : ¬ WellFormed raw := by
      intro hall
      have hsome := (hlenient _).2 ⟨hall, rfl⟩
      rw [hnone] at hsome
      cases hsome
    exact ⟨nofun, fun h => absurd h.1 hnot⟩

end EntryMap

end Shortcuts
