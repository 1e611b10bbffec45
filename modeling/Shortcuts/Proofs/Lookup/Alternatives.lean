import Shortcuts.Proofs.Lookup.Store

/-!
Includes as alternatives. Whatever lists are nested in each other, an include comes to the first
of its leaves that does not resolve to nothing, so nothing but these and their order matters.
-/
namespace Shortcuts

namespace Include

mutual

/-- What an include is made of but lists, from left to right. -/
def leaves : Include → List Include
  | .key k => [.key k]
  | .reference k within => [.reference k within]
  | .list alternatives => leavesOfAll alternatives
  | .unrecognized value => [.unrecognized value]

def leavesOfAll : List Include → List Include
  | [] => []
  | i :: rest => i.leaves ++ leavesOfAll rest

end

theorem leaves_list_nil : (Include.list []).leaves = [] := rfl

theorem leaves_list_cons (i : Include) (rest : List Include) :
    (Include.list (i :: rest)).leaves = i.leaves ++ (Include.list rest).leaves := rfl

def IsLeaf : Include → Prop
  | .list _ => False
  | .key _ | .reference .. | .unrecognized _ => True

theorem isLeaf_of_mem_leaves {i leaf : Include} (h : leaf ∈ i.leaves) : leaf.IsLeaf := by
  induction i using alternativesInduction with
  | key k => exact List.mem_singleton.1 h ▸ trivial
  | reference k within => exact List.mem_singleton.1 h ▸ trivial
  | unrecognized value => exact List.mem_singleton.1 h ▸ trivial
  | nil => cases h
  | cons i rest ih ihrest =>
    rw [leaves_list_cons] at h
    exact (List.mem_append.1 h).elim ih ihrest

/-- A leaf either refers to a key or is nothing that can be looked up. -/
theorem IsLeaf.target?_cases {leaf : Include} (h : leaf.IsLeaf) (language : String)
    (namespaces : List Source) :
    (∃ within key, leaf.target? language namespaces = some (within, key)) ∨
      ∃ value, leaf = .unrecognized value := by
  match leaf with
  | .key k => exact .inl ⟨_, _, rfl⟩
  | .reference k none => exact .inl ⟨_, _, rfl⟩
  | .reference k (some name) => exact .inl ⟨_, _, rfl⟩
  | .unrecognized value => exact .inr ⟨value, rfl⟩

end Include

namespace Lookup

variable (language : String) (find : List Source → String → Except Failure (Option Shortcut))
  (namespaces : List Source)

theorem included_list_singleton (i : Include) :
    included language find namespaces (.list [i]) = included language find namespaces i := by
  rw [included_list_cons, included_list_nil]
  split
  · rename_i hnone
    exact hnone.symm
  · rfl

theorem included_list_append (first rest : List Include) :
    included language find namespaces (.list (first ++ rest)) =
      match included language find namespaces (.list first) with
      | .ok none => included language find namespaces (.list rest)
      | r => r := by
  induction first with
  | nil => rw [List.nil_append, included_list_nil]
  | cons i first ih =>
    rw [List.cons_append, included_list_cons, included_list_cons, ih]
    cases included language find namespaces i with
    | error failure => rfl
    | ok found => cases found <;> rfl

theorem included_leaves (i : Include) :
    included language find namespaces (.list i.leaves) =
      included language find namespaces i := by
  induction i using Include.alternativesInduction with
  | key k => exact included_list_singleton language find namespaces (.key k)
  | reference k within => exact included_list_singleton language find namespaces _
  | unrecognized value => exact included_list_singleton language find namespaces _
  | nil => rfl
  | cons i rest ih ihrest =>
    -- The leaves of a list come first those of its first alternative, then those of the others.
    have happend := included_list_append language find namespaces i.leaves
      (Include.list rest).leaves
    rw [ih, ihrest] at happend
    exact happend.trans (included_list_cons language find namespaces i rest).symm

variable {language find namespaces}

theorem exists_mem_of_included_list {alternatives : List Include}
    {r : Except Failure (Option Shortcut)} (hr : r ≠ .ok none)
    (h : included language find namespaces (.list alternatives) = r) :
    ∃ i ∈ alternatives, included language find namespaces i = r := by
  induction alternatives with
  | nil => exact absurd h.symm hr
  | cons i rest ih =>
    rw [included_list_cons] at h
    split at h
    · obtain ⟨j, hj, hjr⟩ := ih h
      exact ⟨j, List.mem_cons_of_mem _ hj, hjr⟩
    · exact ⟨i, List.mem_cons_self .., h⟩

/-- What is included comes from one of the leaves. -/
theorem exists_leaf_of_included {i : Include} {r : Except Failure (Option Shortcut)}
    (hr : r ≠ .ok none) (h : included language find namespaces i = r) :
    ∃ leaf ∈ i.leaves, included language find namespaces leaf = r := by
  rw [← included_leaves] at h
  exact exists_mem_of_included_list hr h

variable {find' : List Source → String → Except Failure (Option Shortcut)}
  {namespaces' : List Source}

/-- Of two lists that agree in what each alternative comes to, the same is included. -/
theorem included_list_congr {f : Include → Include} {alternatives : List Include}
    (h : ∀ i ∈ alternatives,
      included language find' namespaces' (f i) = included language find namespaces i) :
    included language find' namespaces' (.list (alternatives.map f)) =
      included language find namespaces (.list alternatives) := by
  induction alternatives with
  | nil => rfl
  | cons i rest ih =>
    rw [List.forall_mem_cons] at h
    rw [List.map_cons, included_list_cons, included_list_cons, h.1, ih h.2]

/-- What is included depends on the lookups for the leaves alone. -/
theorem included_congr {i : Include} (h : ∀ leaf ∈ i.leaves,
      included language find' namespaces' leaf = included language find namespaces leaf) :
    included language find' namespaces' i = included language find namespaces i := by
  have hleaves := included_list_congr (f := id) h
  rwa [List.map_id, included_leaves, included_leaves] at hleaves

theorem resolveEntry_congr {e : Entry} (h : ∀ i, e.include? = some i →
      included language find' namespaces' i = included language find namespaces i) :
    resolveEntry language find' namespaces' e = resolveEntry language find namespaces e := by
  cases hinclude : e.include? with
  | none => rw [resolveEntry_of_plain _ _ _ hinclude, resolveEntry_of_plain _ _ _ hinclude]
  | some i =>
    rw [resolveEntry_of_include _ _ _ hinclude, resolveEntry_of_include _ _ _ hinclude,
      h i hinclude]

end Lookup

end Shortcuts
