import Shortcuts.Proofs.Lookup.InForce

/-!
Lookups in fixed entries, where a source has its entries or no data. Nothing but the entries of
the most important namespace that has a key matters, and a lookup is a plain function of them.
-/
namespace Except

variable {ε α β : Type} {r : Except ε α} {f : α → β}

theorem map_eq_ok_iff {b : β} : r.map f = .ok b ↔ ∃ a, r = .ok a ∧ f a = b := by
  cases r <;> simp [Except.map]

theorem map_eq_error_iff {failure : ε} : r.map f = .error failure ↔ r = .error failure := by
  cases r <;> simp [Except.map]

theorem toOption_eq_some_iff {a : α} : r.toOption = some a ↔ r = .ok a := by
  cases r <;> simp [Except.toOption]

theorem exists_of_isOk_eq_false (h : r.isOk = false) : ∃ failure, r = .error failure := by
  cases r with
  | ok a => cases h
  | error failure => exact ⟨failure, rfl⟩

end Except

namespace Shortcuts

def Store.entry? (store : Store) (s : Source) (key : String) : Option Entry :=
  (store s).bind (·.get? key)

/-- The entry that decides on a key; the namespaces are listed by ascending importance. -/
def Store.deciding? (store : Store) (namespaces : List Source) (key : String) : Option Entry :=
  namespaces.reverse.findSome? (store.entry? · key)

theorem Store.deciding?_cons (store : Store) (s : Source) (rest : List Source) (key : String) :
    store.deciding? (s :: rest) key = (store.deciding? rest key).or (store.entry? s key) := by
  rw [deciding?, List.reverse_cons, List.findSome?_append, List.findSome?_singleton, ← deciding?]

theorem Store.deciding?_congr {store store' : Store} {namespaces : List Source} {key : String}
    (h : ∀ s ∈ namespaces, store.entry? s key = store'.entry? s key) :
    store.deciding? namespaces key = store'.deciding? namespaces key := by
  induction namespaces with
  | nil => rfl
  | cons s rest ih =>
    rw [List.forall_mem_cons] at h
    rw [deciding?_cons, deciding?_cons, h.1, ih h.2]

namespace Include

/-- The namespaces and the key that an include which is a single reference leads to. -/
def target? (language : String) (namespaces : List Source) : Include → Option (List Source × String)
  | .key k => some (namespaces, Lookup.includeKey language k)
  | .reference k none => some (namespaces, Lookup.includeKey language k)
  | .reference k (some name) => some ([.official name], Lookup.includeKey language k)
  | .list _ | .unrecognized _ => none

/-- Induction over an include and, if it is a list, over its alternatives one by one. -/
@[elab_as_elim]
theorem alternativesInduction {P : Include → Prop} (key : ∀ k, P (.key k))
    (reference : ∀ k within, P (.reference k within)) (unrecognized : ∀ v, P (.unrecognized v))
    (nil : P (.list [])) (cons : ∀ i rest, P i → P (.list rest) → P (.list (i :: rest)))
    (i : Include) : P i :=
  @Include.rec P (fun alternatives => P (.list alternatives)) key reference
    (fun _ h => h) unrecognized nil cons i

end Include

namespace Entry

def include? : Entry → Option Include
  | .short _ => none
  | .full d => d.include?

/-- What an entry says itself, without what it includes. -/
def own : Entry → Shortcut
  | .short template => .ofUrl (Template.ofShort template)
  | .full d => d.shortcut

end Entry

namespace Lookup

variable (store : Store) (language : String)

theorem firstEntry_cons (key : String) (s : Source) (rest : List Source) :
    firstEntry store.supply key (s :: rest) =
      match store.entry? s key with
      | none => firstEntry store.supply key rest
      | some e => .ok (some e) := by
  rw [firstEntry, Store.entry?]
  change Except.bind (.ok (store s)) _ = _
  cases store s with
  | none => rfl
  | some entries =>
    rw [Option.bind_some]
    cases h : entries.get? key with
    | none => simp [Except.bind, Store.supply, h]
    | some e => simp [Except.bind, Store.supply, bind, pure, Except.pure, h]

theorem firstEntry_supply (key : String) (sources : List Source) :
    firstEntry store.supply key sources = .ok (sources.findSome? (store.entry? · key)) := by
  induction sources with
  | nil => rfl
  | cons s rest ih =>
    rw [firstEntry_cons, List.findSome?_cons]
    cases store.entry? s key with
    | none => exact ih
    | some e => rfl

theorem resolveEntry_eq_pure {m : Type → Type} [Monad m] [MonadExcept Failure m]
    (find : List Source → String → m (Option Shortcut)) (namespaces : List Source) {e : Entry}
    (h : e.include? = none) : resolveEntry language find namespaces e = pure (some e.own) := by
  match e with
  | .short template => rfl
  | .full ⟨none, own⟩ => rfl

section Resolving

variable (find : List Source → String → Except Failure (Option Shortcut))
  (namespaces : List Source)

theorem resolveEntry_of_plain {e : Entry} (h : e.include? = none) :
    resolveEntry language find namespaces e = .ok (some e.own) :=
  resolveEntry_eq_pure language find namespaces h

theorem resolveEntry_of_include {e : Entry} {i : Include} (h : e.include? = some i) :
    resolveEntry language find namespaces e =
      (included language find namespaces i).map (Option.map e.own.mergedOver) := by
  match e with
  | .full ⟨some j, own⟩ =>
    obtain rfl : j = i := Option.some.inj h
    cases h : included language find namespaces j <;>
      simp [resolveEntry, h, bind, Except.bind, Except.map, Entry.own, pure, Except.pure]

theorem included_of_target {i : Include} {within : List Source} {key : String}
    (h : i.target? language namespaces = some (within, key)) :
    included language find namespaces i = find within key := by
  match i with
  | .key k =>
    obtain ⟨rfl, rfl⟩ := Prod.mk.inj (Option.some.inj h)
    rfl
  | .reference k none =>
    obtain ⟨rfl, rfl⟩ := Prod.mk.inj (Option.some.inj h)
    rfl
  | .reference k (some name) =>
    obtain ⟨rfl, rfl⟩ := Prod.mk.inj (Option.some.inj h)
    rfl
  | .list _ | .unrecognized _ => simp [Include.target?] at h

theorem included_list_nil :
    included language find namespaces (.list []) = .ok none := rfl

theorem included_list_cons (i : Include) (rest : List Include) :
    included language find namespaces (.list (i :: rest)) =
      match included language find namespaces i with
      | .ok none => included language find namespaces (.list rest)
      | r => r := by
  rw [included, included, firstIncluded]
  cases included language find namespaces i with
  | error f => rfl
  | ok s => cases s <;> rfl

theorem included_unrecognized (value : Json) :
    included language find namespaces (.unrecognized value) =
      .error (.invalidInclude value.render) := rfl

end Resolving

theorem find_zero (namespaces : List Source) (key : String) :
    find store.supply language 0 namespaces key = .error (.circularInclusion key) := rfl

theorem find_succ (depth : Nat) (namespaces : List Source) (key : String) :
    find store.supply language (depth + 1) namespaces key =
      match store.deciding? namespaces key with
      | none => .ok none
      | some e => resolveEntry language (find store.supply language depth) namespaces e := by
  rw [find]
  change Except.bind (firstEntry store.supply key namespaces.reverse) _ = _
  rw [firstEntry_supply, ← Store.deciding?]
  cases store.deciding? namespaces key with
  | none => rfl
  | some e => rfl

/-- Unless a lookup finds nothing, what it ends with comes from the deciding entry. -/
theorem exists_deciding_of_find {depth : Nat} {namespaces : List Source} {key : String}
    {r : Except Failure (Option Shortcut)}
    (h : find store.supply language (depth + 1) namespaces key = r) (hr : r ≠ .ok none) :
    ∃ e, store.deciding? namespaces key = some e ∧
      resolveEntry language (find store.supply language depth) namespaces e = r := by
  rw [find_succ] at h
  cases hentry : store.deciding? namespaces key with
  | none =>
    rw [hentry] at h
    exact absurd h.symm hr
  | some e =>
    rw [hentry] at h
    exact ⟨e, rfl, h⟩

end Lookup

end Shortcuts
