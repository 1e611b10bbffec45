import Shortcuts.Proofs.Lookup.Store
import Shortcuts.Sample

/-!
Include chains. Where entries include at most one key each, a lookup follows a chain of entries
to the first that includes nothing. Its shortcut takes each field from the first entry of the
chain that sets it; a chain that does not end within the depth is refused at the key it has
reached by then.
-/
namespace Shortcuts

namespace Include

/-- The key of an include that is a single key among the same namespaces. -/
def singleKey? : Include → Option String
  | .key k => some k
  | .reference k none => some k
  | .reference _ (some _) | .list _ | .unrecognized _ => none

theorem target?_of_singleKey? {i : Include} {k : String} (h : i.singleKey? = some k)
    (language : String) (namespaces : List Source) :
    i.target? language namespaces = some (namespaces, Lookup.includeKey language k) := by
  match i with
  | .key _ | .reference _ none =>
    obtain rfl := Option.some.inj h
    rfl
  | .reference _ (some _) | .list _ | .unrecognized _ => simp [singleKey?] at h

end Include

/-- Every include in the store is a single key. -/
def Store.Linear (store : Store) : Prop :=
  ∀ s entries, store s = some entries → ∀ x ∈ entries.entries, ∀ i, x.2.include? = some i →
    ∃ k, i.singleKey? = some k

theorem Store.Linear.deciding {store : Store} (h : store.Linear) {namespaces : List Source}
    {key : String} {e : Entry} {i : Include} (he : store.deciding? namespaces key = some e)
    (hi : e.include? = some i) : ∃ k, i.singleKey? = some k := by
  obtain ⟨s, _, hs⟩ := List.exists_of_findSome?_eq_some he
  obtain ⟨entries, hentries, hget⟩ := Option.bind_eq_some_iff.1 hs
  have hmem : (key, e) ∈ entries.entries := (entries.get?_eq_some_iff key e).1 hget
  exact h s entries hentries (key, e) hmem i hi

structure IncludeChain where
  store : Store
  language : String
  namespaces : List Source
  start : String

namespace IncludeChain

/-- Each key is the one that the entry before it includes; at its end the chain stays. -/
def key (c : IncludeChain) : Nat → String
  | 0 => c.start
  | n + 1 =>
    match ((c.store.deciding? c.namespaces (c.key n)).bind Entry.include?).bind
        Include.singleKey? with
    | some k => Lookup.includeKey c.language k
    | none => c.key n

variable (c : IncludeChain)

def entry? (n : Nat) : Option Entry := c.store.deciding? c.namespaces (c.key n)

/-- The entry is missing or includes nothing. -/
def StopsAt (n : Nat) : Prop := (c.entry? n).bind Entry.include? = none

def EndsAt (n : Nat) : Prop := c.StopsAt n ∧ ∀ i < n, ¬ c.StopsAt i

instance (n : Nat) : Decidable (c.StopsAt n) :=
  inferInstanceAs (Decidable ((c.entry? n).bind Entry.include? = none))

instance (n : Nat) : Decidable (c.EndsAt n) :=
  inferInstanceAs (Decidable (c.StopsAt n ∧ ∀ i < n, ¬ c.StopsAt i))

/-- A field as the first of the entries up to `n` says that sets it. -/
def first {α : Type} (field : Shortcut → Option α) (n : Nat) : Option α :=
  (List.range (n + 1)).findSome? fun i => (c.entry? i).bind fun e => field e.own

structure Merged (n : Nat) (s : Shortcut) : Prop where
  url : s.url = c.first Shortcut.url n
  title : s.title = c.first Shortcut.title n
  description : s.description = c.first Shortcut.description n
  tags : s.tags = c.first Shortcut.tags n
  deprecated : s.deprecated = c.first Shortcut.deprecated n
  extra : ∀ name, s.extra.get? name = c.first (fun own => own.extra.get? name) n

/-- The chain from its second key on. -/
def tail : IncludeChain := { c with start := c.key 1 }

theorem key_tail (n : Nat) : c.tail.key n = c.key (n + 1) := by
  induction n with
  | zero => rfl
  | succ n ih =>
    rw [key, key, ih]
    rfl

theorem entry?_tail (n : Nat) : c.tail.entry? n = c.entry? (n + 1) := by
  unfold entry?
  rw [key_tail]
  rfl

theorem stopsAt_tail (n : Nat) : c.tail.StopsAt n ↔ c.StopsAt (n + 1) := by
  unfold StopsAt
  rw [entry?_tail]

/-- Unless a chain stops at once it ends where its tail does. -/
theorem endsAt_tail (h : ¬ c.StopsAt 0) (n : Nat) : c.tail.EndsAt n ↔ c.EndsAt (n + 1) := by
  unfold EndsAt
  simp only [stopsAt_tail]
  refine and_congr_right fun _ => ⟨fun hbefore i hi => ?_, fun hbefore i hi => ?_⟩
  · cases i with
    | zero => exact h
    | succ i => exact hbefore i (by omega)
  · exact hbefore (i + 1) (by omega)

theorem endsAt_zero (h : c.StopsAt 0) {n : Nat} (hn : c.EndsAt n) : n = 0 := by
  cases n with
  | zero => rfl
  | succ n => exact absurd h (hn.2 0 (by omega))

theorem first_zero {α : Type} (field : Shortcut → Option α) {e : Entry}
    (he : c.entry? 0 = some e) : c.first field 0 = field e.own := by
  simp [first, he]

theorem first_succ {α : Type} (field : Shortcut → Option α) (n : Nat) {e : Entry}
    (he : c.entry? 0 = some e) :
    c.first field (n + 1) = (field e.own).or (c.tail.first field n) := by
  unfold first
  rw [List.range_succ_eq_map, List.findSome?_cons, List.findSome?_map, he, Option.bind_some]
  have htail : ((fun i => (c.entry? i).bind fun e => field e.own) ∘ Nat.succ) =
      fun i => (c.tail.entry? i).bind fun e => field e.own := by
    funext i
    simp only [Function.comp, entry?_tail]
  rw [htail]
  cases field e.own <;> rfl

theorem merged_zero {e : Entry} (he : c.entry? 0 = some e) : c.Merged 0 e.own where
  url := (c.first_zero _ he).symm
  title := (c.first_zero _ he).symm
  description := (c.first_zero _ he).symm
  tags := (c.first_zero _ he).symm
  deprecated := (c.first_zero _ he).symm
  extra name := (c.first_zero (fun own => own.extra.get? name) he).symm

/-- Laying the first entry over what the tail gives goes on with the chain. -/
theorem merged_succ {n : Nat} {e : Entry} {s : Shortcut} (he : c.entry? 0 = some e)
    (hs : c.tail.Merged n s) : c.Merged (n + 1) (e.own.mergedOver s) where
  url := by rw [c.first_succ _ n he, ← hs.url]; rfl
  title := by rw [c.first_succ _ n he, ← hs.title]; rfl
  description := by rw [c.first_succ _ n he, ← hs.description]; rfl
  tags := by rw [c.first_succ _ n he, ← hs.tags]; rfl
  deprecated := by rw [c.first_succ _ n he, ← hs.deprecated]; rfl
  extra name := by
    rw [c.first_succ _ n he, ← hs.extra name]
    exact KeyMap.get?_extend s.extra e.own.extra name

/-- What a lookup along the chain gives with a limited depth. -/
structure Gives (depth : Nat) (r : Except Failure (Option Shortcut)) : Prop where
  /-- The chain ends with an entry that is missing. -/
  missing : ∀ n < depth, c.EndsAt n → c.entry? n = none → r = .ok none
  /-- The chain ends with an entry that includes nothing. -/
  found : ∀ n < depth, c.EndsAt n → c.entry? n ≠ none → ∃ s, r = .ok (some s) ∧ c.Merged n s
  /-- The chain does not end within the depth. -/
  tooLong : (∀ n < depth, ¬ c.EndsAt n) → r = .error (.circularInclusion (c.key depth))

theorem gives_zero : c.Gives 0 (.error (.circularInclusion c.start)) where
  missing n hn := absurd hn (Nat.not_lt_zero n)
  found n hn := absurd hn (Nat.not_lt_zero n)
  tooLong _ := rfl

theorem endsAt_zero_iff : c.EndsAt 0 ↔ c.StopsAt 0 :=
  ⟨fun h => h.1, fun h => ⟨h, fun i hi => absurd hi (Nat.not_lt_zero i)⟩⟩

theorem gives_missing (depth : Nat) (h : c.entry? 0 = none) : c.Gives (depth + 1) (.ok none) := by
  have hstop : c.StopsAt 0 := by
    rw [StopsAt, h]
    rfl
  constructor
  · exact fun _ _ _ _ => rfl
  · intro n _ hn hentry
    obtain rfl := c.endsAt_zero hstop hn
    exact absurd h hentry
  · intro hlong
    exact absurd (c.endsAt_zero_iff.2 hstop) (hlong 0 (by omega))

theorem gives_plain (depth : Nat) {e : Entry} (h : c.entry? 0 = some e)
    (hi : e.include? = none) : c.Gives (depth + 1) (.ok (some e.own)) := by
  have hstop : c.StopsAt 0 := by
    rw [StopsAt, h]
    exact hi
  constructor
  · intro n _ hn hentry
    obtain rfl := c.endsAt_zero hstop hn
    simp [h] at hentry
  · intro n _ hn _
    obtain rfl := c.endsAt_zero hstop hn
    exact ⟨e.own, rfl, c.merged_zero h⟩
  · intro hlong
    exact absurd (c.endsAt_zero_iff.2 hstop) (hlong 0 (by omega))

/-- One step along the chain. -/
theorem gives_including {depth : Nat} {e : Entry} {r : Except Failure (Option Shortcut)}
    (h : c.entry? 0 = some e) (hi : e.include? ≠ none) (hr : c.tail.Gives depth r) :
    c.Gives (depth + 1) (r.map (Option.map e.own.mergedOver)) := by
  have hgo : ¬ c.StopsAt 0 := by
    rw [StopsAt, h]
    exact hi
  have hends : ∀ n, c.EndsAt n → ∃ m, n = m + 1 ∧ c.tail.EndsAt m := by
    intro n hn
    cases n with
    | zero => exact absurd hn.1 hgo
    | succ m => exact ⟨m, rfl, (c.endsAt_tail hgo m).2 hn⟩
  constructor
  · intro n hn hend hentry
    obtain ⟨m, rfl, htail⟩ := hends n hend
    rw [← c.entry?_tail] at hentry
    rw [hr.missing m (by omega) htail hentry]
    rfl
  · intro n hn hend hentry
    obtain ⟨m, rfl, htail⟩ := hends n hend
    rw [← c.entry?_tail] at hentry
    obtain ⟨s, rfl, hs⟩ := hr.found m (by omega) htail hentry
    exact ⟨e.own.mergedOver s, rfl, c.merged_succ h hs⟩
  · intro hlong
    have hlong' : ∀ n < depth, ¬ c.tail.EndsAt n := by
      intro n hn hend
      exact hlong (n + 1) (by omega) ((c.endsAt_tail hgo n).1 hend)
    rw [hr.tooLong hlong', c.key_tail]
    rfl

end IncludeChain

namespace Finder

open Lookup

/-- The chain that a lookup follows. -/
def chain (f : Finder) (store : Store) (key : String) (override : Option (List Source)) :
    IncludeChain := ⟨store, f.language, override.getD f.namespaces, key⟩

variable (f : Finder) (store : Store) (key : String) (override : Option (List Source))

theorem chain_tail {e : Entry} {i : Include} {k : String}
    (h : store.deciding? (override.getD f.namespaces) key = some e) (hi : e.include? = some i)
    (hk : i.singleKey? = some k) :
    (f.chain store key override).tail = f.chain store (includeKey f.language k) override := by
  have hkey : (f.chain store key override).key 1 = includeKey f.language k := by
    simp [chain, IncludeChain.key, h, hi, hk]
  simp only [IncludeChain.tail, hkey]
  rfl

/-- Where every include is a single key, a lookup follows the chain of the key. -/
theorem find_follows_chain (hstore : store.Linear) (depth : Nat) :
    (f.chain store key override).Gives depth (f.find store.supply key override depth) := by
  induction depth generalizing key with
  | zero => exact IncludeChain.gives_zero _
  | succ depth ih =>
    rw [find_eq, find_succ]
    cases hentry : store.deciding? (override.getD f.namespaces) key with
    | none => exact IncludeChain.gives_missing _ depth hentry
    | some e =>
      cases hinclude : e.include? with
      | none =>
        have hplain := resolveEntry_of_plain f.language (Lookup.find store.supply f.language depth)
          (override.getD f.namespaces) hinclude
        simp only [hplain]
        exact IncludeChain.gives_plain _ depth hentry hinclude
      | some i =>
        obtain ⟨k, hk⟩ := hstore.deciding hentry hinclude
        have htail := ih (includeKey f.language k)
        rw [find_eq] at htail
        rw [← f.chain_tail store key override hentry hinclude hk] at htail
        have hincluded := resolveEntry_of_include f.language
          (Lookup.find store.supply f.language depth) (override.getD f.namespaces) hinclude
        rw [included_of_target _ _ _ (Include.target?_of_singleKey? hk _ _)] at hincluded
        simp only [hincluded]
        exact IncludeChain.gives_including _ hentry (by simp [hinclude]) htail

end Finder

namespace Sample

theorem chained_include? {s : Source} {key : String} {e : Entry} {i : Include}
    (h : chained.entry? s key = some e) (hi : e.include? = some i) :
    (key = "a 1" ∧ i = .key "b-<$language> 1") ∨ (key = "b-de 1" ∧ i = .reference "c 1" none) := by
  obtain ⟨entries, hentries, hget⟩ := Option.bind_eq_some_iff.1 h
  have hmem := (entries.get?_eq_some_iff key e).1 hget
  unfold chained at hentries
  split at hentries
  · obtain rfl := Option.some.inj hentries
    rcases List.mem_cons.1 hmem with heq | hmem
    · obtain ⟨rfl, rfl⟩ := Prod.mk.inj heq
      exact .inl ⟨rfl, (Option.some.inj hi).symm⟩
    · rcases List.mem_cons.1 hmem with heq | hmem
      · obtain ⟨rfl, rfl⟩ := Prod.mk.inj heq
        cases hi
      · obtain ⟨rfl, rfl⟩ := Prod.mk.inj (List.mem_singleton.1 hmem)
        cases hi
  · obtain rfl := Option.some.inj hentries
    obtain ⟨rfl, rfl⟩ := Prod.mk.inj (List.mem_singleton.1 hmem)
    exact .inr ⟨rfl, (Option.some.inj hi).symm⟩
  · cases hentries

theorem chained_linear : chained.Linear := by
  intro s entries hs x hx i hi
  have hentry : chained.entry? s x.1 = some x.2 := by
    rw [Store.entry?, hs]
    exact (entries.get?_eq_some_iff x.1 x.2).2 hx
  rcases chained_include? hentry hi with ⟨_, rfl⟩ | ⟨_, rfl⟩
  · exact ⟨_, rfl⟩
  · exact ⟨_, rfl⟩

/-- The fields of the entries come together with depth three, but not with depth two. -/
theorem chained_found : chained.Linear ∧
    (∃ s, finder.find chained.supply "a 1" none 3 = .ok (some s) ∧
      s.url = some "https://c.example/<q>" ∧ s.title = some "A" ∧
      s.description = some "Over c") ∧
    finder.find chained.supply "a 1" none 2 = .error (.circularInclusion "c 1") := by
  have hgives := finder.find_follows_chain chained "a 1" none chained_linear
  refine ⟨chained_linear, ?_, ?_⟩
  · obtain ⟨s, hs, hmerged⟩ := (hgives 3).found 2 (by omega) (by decide +kernel) (by decide +kernel)
    exact ⟨s, hs, hmerged.url.trans (by decide +kernel), hmerged.title.trans (by decide +kernel),
      hmerged.description.trans (by decide +kernel)⟩
  · exact (hgives 2).tooLong (by decide +kernel)

end Sample

end Shortcuts
