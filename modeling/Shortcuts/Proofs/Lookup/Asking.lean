import Shortcuts.Proofs.Lookup.Store

/-!
Which sources a lookup asks for. A dispatcher may be in any state and change with each question,
as long as each source yields the same each time: entries, no data or a failure. The sources are
asked from the most important one down to the first that fails or has the key, and to a lookup
that ends there it is all the same what comes below.
-/
namespace Shortcuts

/-- Computations with a dispatcher, in whatever state it is. -/
abbrev Asking (σ : Type) := ExceptT Failure (StateM σ)

theorem Asking.bind_apply {σ α β : Type} (x : Asking σ α) (f : α → Asking σ β) (st : σ) :
    (x >>= f) st =
      match x st with
      | (.ok a, st') => f a st'
      | (.error failure, st') => (.error failure, st') := by
  simp only [bind, ExceptT.bind, ExceptT.mk, StateT.bind, ExceptT.bindCont]
  rcases x st with ⟨_ | _, st'⟩ <;> rfl

namespace Supply

variable {σ κ : Type}

/-- In all states that are reached, each of the sources yields an answer of its own. -/
structure Independent (supply : Supply (Asking σ)) (sources : List Source)
    (yield : Source → Except Failure (Option EntryMap)) (Reached : σ → Prop) : Prop where
  entries : ∀ s ∈ sources, ∀ st, Reached st →
    (supply.entries s st).1 = yield s ∧ Reached (supply.entries s st).2
  note : ∀ e st, Reached st → (supply.note e st).1 = .ok () ∧ Reached (supply.note e st).2

/-- A record to which every question for a source adds, such as the requests that were sent. -/
structure Records (supply : Supply (Asking σ)) (record : σ → κ) (add : Source → κ → κ) : Prop where
  entries : ∀ s st, record (supply.entries s st).2 = add s (record st)
  note : ∀ e st, record (supply.note e st).2 = record st

theorem Independent.mono {supply : Supply (Asking σ)} {sources fewer : List Source}
    {yield : Source → Except Failure (Option EntryMap)} {Reached : σ → Prop}
    (h : supply.Independent sources yield Reached) (hsub : fewer ⊆ sources) :
    supply.Independent fewer yield Reached :=
  ⟨fun s hs => h.entries s (hsub hs), h.note⟩

end Supply

namespace Lookup

/-- How a lookup of a key ends with an answer, if it does: with its failure or with its entry. -/
def verdict? (key : String) : Except Failure (Option EntryMap) → Option (Except Failure Entry)
  | .error failure => some (.error failure)
  | .ok none => none
  | .ok (some entries) => (entries.get? key).map .ok

/-- None of the sources fails or has the key. -/
def Silent (yield : Source → Except Failure (Option EntryMap)) (key : String)
    (sources : List Source) : Prop :=
  ∀ s ∈ sources, verdict? key (yield s) = none

variable {σ κ : Type} {supply : Supply (Asking σ)} {sources above : List Source}
  {yield : Source → Except Failure (Option EntryMap)} {Reached : σ → Prop}
  {record : σ → κ} {add : Source → κ → κ} {key : String} {s : Source} {st : σ}

section Asking

variable (hyield : supply.Independent sources yield Reached) (hrecord : supply.Records record add)
  (hst : Reached st)

include hyield hrecord hst

theorem note_apply (e : Event) : ∃ st', supply.note e st = (.ok (), st') ∧ Reached st' ∧
    record st' = record st := by
  obtain ⟨hok, hreached⟩ := hyield.note e st hst
  exact ⟨_, Prod.ext hok rfl, hreached, hrecord.note e st⟩

theorem entries_apply (hs : s ∈ sources) : ∃ st', supply.entries s st = (yield s, st') ∧
    Reached st' ∧ record st' = add s (record st) := by
  obtain ⟨hanswer, hreached⟩ := hyield.entries s hs st hst
  exact ⟨_, Prod.ext hanswer rfl, hreached, hrecord.entries s st⟩

/-- A source that is asked either has the last word or is passed over. -/
theorem firstEntry_cons_apply (key : String) (hs : s ∈ sources) :
    ∃ st', Reached st' ∧ record st' = add s (record st) ∧
      ∀ rest, firstEntry supply key (s :: rest) st =
        match verdict? key (yield s) with
        | none => firstEntry supply key rest st'
        | some r => (r.map some, st') := by
  obtain ⟨asked, hasked, hreached, hadded⟩ := entries_apply hyield hrecord hst hs
  simp only [firstEntry, Asking.bind_apply, hasked]
  cases yield s with
  | error failure => exact ⟨asked, hreached, hadded, fun _ => rfl⟩
  | ok answer =>
    cases answer with
    | none =>
      obtain ⟨noted, hnoted, hreached', hkept⟩ :=
        note_apply hyield hrecord hreached (.noData s.display)
      refine ⟨noted, hreached', hkept.trans hadded, fun rest => ?_⟩
      simp only [Asking.bind_apply, hnoted, verdict?]
    | some entries =>
      cases hentry : entries.get? key with
      | none =>
        refine ⟨asked, hreached, hadded, fun rest => ?_⟩
        simp only [verdict?, hentry, Option.map_none]
      | some e =>
        obtain ⟨noted, hnoted, hreached', hkept⟩ :=
          note_apply hyield hrecord hreached (.found key s.display)
        refine ⟨noted, hreached', hkept.trans hadded, fun rest => ?_⟩
        simp only [Asking.bind_apply, hnoted, verdict?, hentry, Option.map_some]
        rfl

/-- Silent sources are passed over one by one. -/
theorem firstEntry_silent_append {upper : List Source} (hupper : upper ⊆ sources)
    (hsilent : Silent yield key upper) :
    ∃ st', Reached st' ∧ record st' = upper.foldl (fun k s => add s k) (record st) ∧
      ∀ rest, firstEntry supply key (upper ++ rest) st = firstEntry supply key rest st' := by
  induction upper generalizing st with
  | nil => exact ⟨st, hst, rfl, fun _ => rfl⟩
  | cons s upper ih =>
    rw [List.cons_subset] at hupper
    rw [Silent, List.forall_mem_cons] at hsilent
    obtain ⟨asked, hreached, hadded, hpassed⟩ :=
      firstEntry_cons_apply hyield hrecord hst key hupper.1
    obtain ⟨st', hreached', hrecorded, hrest⟩ := ih hreached hupper.2 hsilent.2
    refine ⟨st', hreached', by rw [hrecorded, hadded, List.foldl_cons], fun rest => ?_⟩
    rw [List.cons_append, hpassed, hsilent.1]
    exact hrest rest

theorem find_succ_apply (language : String) (depth : Nat) (namespaces : List Source)
    (key : String) :
    ∃ st', Reached st' ∧ record st' = record st ∧
      find supply language (depth + 1) namespaces key st =
        match firstEntry supply key namespaces.reverse st' with
        | (.error failure, st'') => (.error failure, st'')
        | (.ok none, st'') => (.ok none, st'')
        | (.ok (some e), st'') =>
          resolveEntry language (find supply language depth) namespaces e st'' := by
  obtain ⟨st', hnoted, hreached, hkept⟩ :=
    note_apply hyield hrecord hst (.searching key namespaces.length)
  refine ⟨st', hreached, hkept, ?_⟩
  simp only [find, Asking.bind_apply, hnoted]
  rcases firstEntry supply key namespaces.reverse st' with ⟨_ | (_ | _), st''⟩ <;> rfl

/-- A lookup among silent sources asks all of them and finds nothing. -/
theorem find_of_silent (language : String) (depth : Nat) (hsilent : Silent yield key sources) :
    ∃ st', record st' = sources.foldr add (record st) ∧
      find supply language (depth + 1) sources key st = (.ok none, st') := by
  obtain ⟨asking, hreached, hkept, hfind⟩ :=
    find_succ_apply hyield hrecord hst language depth sources key
  obtain ⟨st', _, hrecorded, hpassed⟩ := firstEntry_silent_append hyield hrecord hreached
    (List.reverse_subset.2 (List.Subset.refl _)) fun t ht => hsilent t (List.mem_reverse.1 ht)
  refine ⟨st', by rw [hrecorded, List.foldl_reverse, hkept], ?_⟩
  rw [hfind, ← List.append_nil sources.reverse, hpassed]
  rfl

end Asking

section Verdict

variable (hyield : supply.Independent (s :: above) yield Reached)
  (hrecord : supply.Records record add) (hst : Reached st) (hsilent : Silent yield key above)
  (language : String) (depth : Nat) (below : List Source)

include hyield hrecord hst hsilent

/-- A lookup asks the sources above the one that has the last word and that one itself, and
resolves its entry. -/
theorem find_of_verdict {r : Except Failure Entry} (hverdict : verdict? key (yield s) = some r) :
    ∃ st', record st' = (s :: above).foldr add (record st) ∧
      find supply language (depth + 1) (below ++ s :: above) key st =
        (MonadExcept.ofExcept r >>=
          resolveEntry language (find supply language depth) (below ++ s :: above)) st' := by
  obtain ⟨asking, hreached, hkept, hfind⟩ :=
    find_succ_apply hyield hrecord hst language depth (below ++ s :: above) key
  have hupper : above.reverse ⊆ s :: above := fun t ht =>
    List.mem_cons_of_mem s (List.mem_reverse.1 ht)
  obtain ⟨passed, hreached', hrecorded, hpassed⟩ := firstEntry_silent_append hyield hrecord hreached
    hupper fun t ht => hsilent t (List.mem_reverse.1 ht)
  obtain ⟨st', _, hadded, hdecided⟩ :=
    firstEntry_cons_apply hyield hrecord hreached' key (List.mem_cons_self (l := above))
  refine ⟨st', by rw [hadded, hrecorded, List.foldl_reverse, hkept, List.foldr_cons], ?_⟩
  have hreverse : (below ++ s :: above).reverse = above.reverse ++ s :: below.reverse := by simp
  rw [hfind, hreverse, hpassed, hdecided, hverdict]
  cases r <;> rfl

theorem find_of_failing {failure : Failure} (hfails : yield s = .error failure) :
    ∃ st', record st' = (s :: above).foldr add (record st) ∧
      find supply language (depth + 1) (below ++ s :: above) key st = (.error failure, st') := by
  have hverdict : verdict? key (yield s) = some (.error failure) := by rw [hfails, verdict?]
  exact find_of_verdict hyield hrecord hst hsilent language depth below hverdict

theorem find_of_plain {entries : EntryMap} {e : Entry} (hentries : yield s = .ok (some entries))
    (he : entries.get? key = some e) (hplain : e.include? = none) :
    ∃ st', record st' = (s :: above).foldr add (record st) ∧
      find supply language (depth + 1) (below ++ s :: above) key st = (.ok (some e.own), st') := by
  have hverdict : verdict? key (yield s) = some (.ok e) := by
    rw [hentries, verdict?, he, Option.map_some]
  obtain ⟨st', hrecorded, hfind⟩ :=
    find_of_verdict hyield hrecord hst hsilent language depth below hverdict
  refine ⟨st', hrecorded, hfind.trans ?_⟩
  rw [Asking.bind_apply]
  exact congrFun (resolveEntry_eq_pure language _ _ hplain) st'

end Verdict

end Lookup

end Shortcuts
