import Shortcuts.Proofs.Lookup.Search
import Shortcuts.Proofs.Text.Lowercase

/-!
What a full-text search lists. It succeeds if every definition resolves without a failure, and
then each key that some namespace has a hit for is listed with the shortcut of the least important
one of these. The order in which the entries of a namespace are visited does not matter.
-/
namespace Shortcuts

/-! ## Orders of visiting -/

theorem Table.get?_eq_of_perm {α : Type} {a b : Table α} (h : a.entries.Perm b.entries)
    (key : String) : a.get? key = b.get? key := by
  ext value
  rw [get?_eq_some_iff, get?_eq_some_iff, h.mem_iff]

/-- The namespaces have the same entries, visited in another order. -/
def Store.Reorders (visited store : Store) : Prop :=
  ∀ s, Option.Rel (fun a b => a.entries.Perm b.entries) (visited s) (store s)

section Visiting

variable {store visited : Store}

theorem Store.Reorders.entry?_eq (h : visited.Reorders store) (s : Source) (key : String) :
    visited.entry? s key = store.entry? s key := by
  have hs := h s
  unfold entry?
  cases hvisited : visited s with
  | none =>
    rw [hvisited] at hs
    cases hstore : store s with
    | none => rfl
    | some entries =>
      rw [hstore] at hs
      cases hs
  | some entries =>
    rw [hvisited] at hs
    cases hstore : store s with
    | none =>
      rw [hstore] at hs
      cases hs
    | some entries' =>
      rw [hstore] at hs
      cases hs with
      | some hperm => exact Table.get?_eq_of_perm hperm key

theorem Store.Reorders.entry?_funext (h : visited.Reorders store) :
    visited.entry? = store.entry? := by
  funext s key
  exact h.entry?_eq s key

/-- A lookup depends on the entries under each key alone. -/
theorem Lookup.find_congr (h : ∀ s key, visited.entry? s key = store.entry? s key)
    (language : String) (depth : Nat) :
    find visited.supply language depth = find store.supply language depth := by
  have hentry : visited.entry? = store.entry? := by
    funext s key
    exact h s key
  induction depth with
  | zero =>
    funext namespaces key
    rw [find_zero, find_zero]
  | succ depth ih =>
    funext namespaces key
    rw [find_succ, find_succ, Store.deciding?, Store.deciding?, hentry, ih]

theorem Finder.resolve_congr (f : Finder)
    (h : ∀ s key, visited.entry? s key = store.entry? s key) :
    f.resolve visited = f.resolve store := by
  funext e
  rw [resolve_eq, resolve_eq, Lookup.find_congr h]

theorem Finder.resolve_reorders (f : Finder) (h : visited.Reorders store) :
    f.resolve visited = f.resolve store :=
  f.resolve_congr fun s key => h.entry?_eq s key

end Visiting

namespace Finder

variable (f : Finder) (store : Store) (query : String)

/-! ## Success -/

theorem searchEntries_ok_iff (entries : List (String × Entry)) (found : KeyMap Shortcut) :
    (∃ results, f.searchEntries store.supply query entries found = .ok results) ↔
      ∀ key e, (key, e) ∈ entries → ∃ r, f.resolve store e = .ok r := by
  induction entries generalizing found with
  | nil => exact ⟨fun _ key e he => (nomatch he), fun _ => ⟨found, rfl⟩⟩
  | cons head rest ih =>
    obtain ⟨k, d⟩ := head
    rw [searchEntries_cons]
    cases hresolve : f.resolve store d with
    | error failure =>
      constructor
      · rintro ⟨results, hresults⟩
        cases hresults
      · intro h
        obtain ⟨r, hr⟩ := h k d (List.mem_cons_self ..)
        rw [hresolve] at hr
        cases hr
    | ok resolved =>
      simp only
      rw [ih]
      constructor
      · intro h key e he
        rcases List.mem_cons.1 he with heq | he
        · obtain ⟨rfl, rfl⟩ := Prod.mk.inj heq
          exact ⟨resolved, hresolve⟩
        · exact h key e he
      · exact fun h key e he => h key e (List.mem_cons_of_mem _ he)

theorem searchSources_ok_iff (sources : List Source) (found : KeyMap Shortcut) :
    (∃ results, f.searchSources store.supply query sources found = .ok results) ↔
      ∀ t ∈ sources, ∀ key e, store.entry? t key = some e → ∃ r, f.resolve store e = .ok r := by
  induction sources generalizing found with
  | nil => exact ⟨fun _ t ht => (nomatch ht), fun _ => ⟨found, rfl⟩⟩
  | cons t rest ih =>
    rw [searchSources_cons, List.forall_mem_cons]
    cases hentries : store t with
    | none =>
      simp only
      rw [ih]
      have hnone : ∀ key, store.entry? t key = none := by
        intro key
        rw [Store.entry?, hentries]
        rfl
      simp [hnone]
    | some entries =>
      have hmem : ∀ key e, store.entry? t key = some e ↔ (key, e) ∈ entries.entries := by
        intro key e
        rw [Store.entry?, hentries, Option.bind_some, Table.get?_eq_some_iff]
      simp only [hmem]
      rw [← searchEntries_ok_iff f store query entries.entries found]
      cases hsearch : f.searchEntries store.supply query entries.entries found with
      | error failure => simp [Except.bind]
      | ok between =>
        change (∃ results, f.searchSources store.supply query rest between = .ok results) ↔ _
        rw [ih]
        simp

/-- An entry in short notation always resolves. -/
theorem forall_resolve_iff (namespaces : List Source) :
    (∀ t ∈ namespaces, ∀ key e, store.entry? t key = some e → ∃ r, f.resolve store e = .ok r) ↔
      ∀ t ∈ namespaces, ∀ key d, store.entry? t key = some (.full d) →
        ∃ r, f.resolve store (.full d) = .ok r := by
  constructor
  · exact fun h t ht key d hd => h t ht key (.full d) hd
  · intro h t ht key e he
    cases e with
    | short template => exact ⟨_, rfl⟩
    | full d => exact h t ht key d he

/-! ## Hits -/

/-- The entry of a namespace for a key resolves to a shortcut of which the title, the description
or the url, lower-cased, contains the lower-cased query. -/
def HasHit (t : Source) (key : String) (s : Shortcut) : Prop :=
  ∃ e, store.entry? t key = some e ∧ f.resolve store e = .ok (some s) ∧
    ∃ text ∈ s.title.toList ++ s.description.toList ++ s.url.toList,
      Text.lowercase query.toList <:+: Text.lowercase text.toList

theorem mentions_iff (s : Shortcut) :
    s.mentions (String.ofList (Text.lowercase query.toList)) = true ↔
      ∃ text ∈ s.title.toList ++ s.description.toList ++ s.url.toList,
        Text.lowercase query.toList <:+: Text.lowercase text.toList := by
  simp only [Shortcut.mentions, Shortcut.searchTexts, List.any_eq_true, Text.contains_iff,
    String.toList_ofList]

theorem hit?_eq_some_iff {e : Entry} {s : Shortcut} :
    f.hit? store query e = some s ↔
      f.resolve store e = .ok (some s) ∧ s.mentions query = true := by
  constructor
  · exact f.resolve_of_hit? store query
  · rintro ⟨hresolve, hmentions⟩
    rw [hit?, hresolve]
    simp [hmentions]

theorem hasHit_iff (t : Source) (key : String) (s : Shortcut) :
    f.HasHit store query t key s ↔
      (store.entry? t key).bind
        (f.hit? store (String.ofList (Text.lowercase query.toList))) = some s := by
  simp only [HasHit, Option.bind_eq_some_iff, hit?_eq_some_iff, mentions_iff]

theorem search_ok_iff :
    (∃ results, f.search store.supply query = .ok results) ↔
      ∀ t ∈ f.namespaces, ∀ key d, store.entry? t key = some (.full d) →
        ∃ r, f.resolve store (.full d) = .ok r := by
  rw [search, searchLowered, searchSources_ok_iff, forall_resolve_iff]
  simp only [List.mem_reverse]

theorem get?_search_eq_some_iff {results : KeyMap Shortcut}
    (h : f.search store.supply query = .ok results) (key : String) (s : Shortcut) :
    results.get? key = some s ↔ ∃ lower t higher, f.namespaces = lower ++ t :: higher ∧
      f.HasHit store query t key s ∧ ∀ u ∈ lower, ∀ s', ¬ f.HasHit store query u key s' := by
  rw [f.get?_searchLowered store _ h key, List.findSome?_eq_some_iff]
  simp only [hasHit_iff, ← Option.eq_none_iff_forall_ne_some]

theorem get?_search_isSome_iff {results : KeyMap Shortcut}
    (h : f.search store.supply query = .ok results) (key : String) :
    (∃ s, results.get? key = some s) ↔
      ∃ t ∈ f.namespaces, ∃ s, f.HasHit store query t key s := by
  rw [f.get?_searchLowered store _ h key, ← Option.isSome_iff_exists, List.findSome?_isSome_iff]
  simp only [hasHit_iff, Option.isSome_iff_exists]

/-- What a search gives is told by the entries under each key alone. -/
theorem search_eq_ok_iff {results : KeyMap Shortcut} :
    f.search store.supply query = .ok results ↔
      (∀ t ∈ f.namespaces, ∀ key e, store.entry? t key = some e →
        ∃ r, f.resolve store e = .ok r) ∧
      ∀ key, results.get? key = f.namespaces.findSome? fun t => (store.entry? t key).bind
        (f.hit? store (String.ofList (Text.lowercase query.toList))) := by
  rw [f.forall_resolve_iff store, ← f.search_ok_iff store query]
  constructor
  · intro h
    exact ⟨⟨results, h⟩, f.get?_searchLowered store _ h⟩
  · rintro ⟨⟨results', h⟩, hget⟩
    have heq : results' = results := by
      apply KeyMap.eq_of_get?_eq
      intro key
      rw [hget]
      exact f.get?_searchLowered store _ h key
    rw [h, heq]

theorem search_reorders {visited : Store} (h : visited.Reorders store)
    {results : KeyMap Shortcut} :
    f.search visited.supply query = .ok results ↔ f.search store.supply query = .ok results := by
  have hentry := h.entry?_funext
  have hresolve := f.resolve_reorders h
  have hhit : f.hit? visited = f.hit? store := by
    funext query e
    rw [hit?, hit?, hresolve]
  rw [search_eq_ok_iff, search_eq_ok_iff, hentry, hresolve, hhit]

/-- In whatever order the entries are visited, a search succeeds exactly if every definition
resolves without a failure. It lists exactly the keys that some namespace has a hit for, each with
the shortcut of the least important namespace that has one. -/
theorem search_content (visited : Store) (hvisited : visited.Reorders store) :
    ((∃ results, f.search visited.supply query = .ok results) ↔
      ∀ t ∈ f.namespaces, ∀ key d, store.entry? t key = some (.full d) →
        ∃ r, f.resolve store (.full d) = .ok r) ∧
    ∀ results, f.search visited.supply query = .ok results → ∀ key,
      ((∃ s, results.get? key = some s) ↔
        ∃ t ∈ f.namespaces, ∃ s, f.HasHit store query t key s) ∧
      ∀ s, results.get? key = some s ↔ ∃ lower t higher, f.namespaces = lower ++ t :: higher ∧
        f.HasHit store query t key s ∧ ∀ u ∈ lower, ∀ s', ¬ f.HasHit store query u key s' := by
  have hentry := hvisited.entry?_funext
  have hresolve := f.resolve_reorders hvisited
  have hhit : f.HasHit visited query = f.HasHit store query := by
    funext t key s
    rw [HasHit, HasHit, hentry, hresolve]
  refine ⟨?_, fun results hresults key => ⟨?_, fun s => ?_⟩⟩
  · rw [search_ok_iff, hentry, hresolve]
  · rw [f.get?_search_isSome_iff visited query hresults, hhit]
  · rw [f.get?_search_eq_some_iff visited query hresults, hhit]

end Finder

namespace Sample

/-- Two namespaces with the same keys. In the less important one the first entry includes nothing
and the second does not contain what is searched for. -/
def overlapping : Store
  | .official "o" => some (.ofList [
    ("a 1", including (.key "missing 1") (titled "Found A")),
    ("b 1", shortcut "Other" "https://b.example/"),
    ("c 1", shortcut "Found C" "https://c.example/")])
  | .official ".de" => some (.ofList [
    ("a 1", shortcut "A found" "https://a.example/de"),
    ("b 1", including (.key "a 1") .empty),
    ("c 1", shortcut "C found" "https://c.example/de")])
  | _ => none

def backwards (entries : EntryMap) : EntryMap where
  entries := entries.entries.reverse
  distinct := by
    rw [List.map_reverse, (List.reverse_perm _).nodup_iff]
    exact entries.distinct

def reversed (store : Store) : Store := fun s => (store s).map backwards

theorem reversed_reorders (store : Store) : (reversed store).Reorders store := by
  intro s
  rw [reversed]
  cases store s with
  | none => exact .none
  | some entries => exact .some (List.reverse_perm _)

def overlappingBackwards : Store := fun s => (overlapping s).map backwards

theorem overlappingBackwards_reorders : overlappingBackwards.Reorders overlapping :=
  reversed_reorders overlapping

def foundInCountry : Shortcut := { titled "A found" with url := some "https://a.example/de" }

def foundBelow : Shortcut := { titled "Found C" with url := some "https://c.example/" }

/-- The less important namespace decides where it has a hit, and hides nothing where it has not. -/
theorem overlapping_listed :
    overlappingBackwards.Reorders overlapping ∧
    ∃ results, finder.search overlappingBackwards.supply "FOUND" = .ok results ∧
      results.get? "a 1" = some foundInCountry ∧ results.get? "c 1" = some foundBelow := by
  have hcontent := finder.search_content overlapping "FOUND" overlappingBackwards
    overlappingBackwards_reorders
  obtain ⟨results, hresults⟩ :
      ∃ results, finder.search overlappingBackwards.supply "FOUND" = .ok results := ⟨_, rfl⟩
  have hcontains : ∀ title ∈ ["A found", "Found C"],
      Text.lowercase "FOUND".toList <:+: Text.lowercase title.toList := by
    intro title htitle
    rw [← Text.contains_iff]
    revert title
    decide +kernel
  refine ⟨overlappingBackwards_reorders, results, hresults, ?_, ?_⟩
  · refine ((hcontent.2 results hresults "a 1").2 foundInCountry).2
      ⟨[.official "o"], .official ".de", [], rfl, ⟨_, rfl, rfl, "A found", by decide,
        hcontains _ (by decide)⟩, ?_⟩
    rintro u hu s' ⟨e, he, hresolve, _⟩
    obtain rfl := List.mem_singleton.1 hu
    obtain rfl := Option.some.inj he
    cases hresolve
  · exact ((hcontent.2 results hresults "c 1").2 foundBelow).2
      ⟨[], .official "o", [.official ".de"], rfl, ⟨_, rfl, rfl, "Found C", by decide,
        hcontains _ (by decide)⟩, fun u hu => (nomatch hu)⟩

end Sample

end Shortcuts
