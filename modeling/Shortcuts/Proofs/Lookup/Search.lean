import Shortcuts.Proofs.Lookup.Nesting

/-!
Full-text search against lookups. A search resolves entries without looking up their keys, so it
reaches what takes one lookup more than the depth of lookups allows. Up to that, an entry that is
listed by a search is found under its key, if no other namespace has the key.
-/
namespace Shortcuts

/-- Exactly one of the namespaces has an entry for the key. -/
def Store.DefinedOnce (store : Store) (namespaces : List Source) (key : String) : Prop :=
  ∃ t ∈ namespaces, store.entry? t key ≠ none ∧
    ∀ u ∈ namespaces, store.entry? u key ≠ none → u = t

theorem Store.DefinedOnce.deciding?_eq {store : Store} {namespaces : List Source} {key : String}
    (h : store.DefinedOnce namespaces key) {t : Source} (ht : t ∈ namespaces) {e : Entry}
    (he : store.entry? t key = some e) : store.deciding? namespaces key = some e := by
  obtain ⟨u, _, _, honly⟩ := h
  have hut : t = u := honly t ht (by simp [he])
  cases hdeciding : store.deciding? namespaces key with
  | none =>
    have hnone := List.findSome?_eq_none_iff.1 hdeciding t (List.mem_reverse.2 ht)
    simp [he] at hnone
  | some e' =>
    obtain ⟨v, hv, he'⟩ := List.exists_of_findSome?_eq_some hdeciding
    have hvu : v = u := honly v (List.mem_reverse.1 hv) (by simp [he'])
    rw [← he', hvu, ← hut, he]

namespace Finder

open Lookup

/-- The shortcut of an entry as a search resolves it. -/
def resolve (f : Finder) (store : Store) (e : Entry) : Except Failure (Option Shortcut) :=
  f.resolveEntry (fun key override => f.find store.supply key override maxIncludeDepth) none e

theorem resolve_eq (f : Finder) (store : Store) (e : Entry) :
    f.resolve store e = Lookup.resolveEntry f.language
      (Lookup.find store.supply f.language maxIncludeDepth) f.namespaces e :=
  f.resolveEntry_eq (f.find_eq store.supply maxIncludeDepth) none e

/-- The shortcut of an entry, if it resolves to one that contains the query. -/
def hit? (f : Finder) (store : Store) (query : String) (e : Entry) : Option Shortcut :=
  match f.resolve store e with
  | .ok (some s) => if s.mentions query then some s else none
  | _ => none

variable (f : Finder) (store : Store) (query : String)

theorem resolve_of_hit? {e : Entry} {s : Shortcut} (h : f.hit? store query e = some s) :
    f.resolve store e = .ok (some s) ∧ s.mentions query = true := by
  unfold hit? at h
  split at h
  · rename_i s' hresolve
    by_cases hmentions : s'.mentions query = true
    · rw [if_pos hmentions] at h
      obtain rfl := Option.some.inj h
      exact ⟨hresolve, hmentions⟩
    · simp [hmentions] at h
  · cases h

theorem searchEntries_cons (key : String) (e : Entry) (rest : List (String × Entry))
    (found : KeyMap Shortcut) :
    f.searchEntries store.supply query ((key, e) :: rest) found =
      match f.resolve store e with
      | .error failure => .error failure
      | .ok _ =>
        f.searchEntries store.supply query rest
          (((f.hit? store query e).map (found.insert key)).getD found) := by
  rw [searchEntries, hit?]
  change Except.bind (f.resolve store e) _ = _
  cases f.resolve store e with
  | error failure => rfl
  | ok resolved =>
    cases resolved with
    | none => rfl
    | some s => by_cases hmentions : s.mentions query = true <;> simp [Except.bind, hmentions]

theorem searchSources_cons (t : Source) (rest : List Source) (found : KeyMap Shortcut) :
    f.searchSources store.supply query (t :: rest) found =
      match store t with
      | none => f.searchSources store.supply query rest found
      | some entries =>
        (f.searchEntries store.supply query entries.entries found).bind
          (f.searchSources store.supply query rest) := by
  rw [searchSources]
  change Except.bind (.ok (store t)) _ = _
  cases store t <;> rfl

theorem searchEntries_error {entries : List (String × Entry)} {found : KeyMap Shortcut}
    {failure : Failure} (h : f.searchEntries store.supply query entries found = .error failure) :
    ∃ key e, (key, e) ∈ entries ∧ f.resolve store e = .error failure := by
  induction entries generalizing found with
  | nil => cases h
  | cons head rest ih =>
    obtain ⟨k, e⟩ := head
    rw [searchEntries_cons] at h
    cases hresolve : f.resolve store e with
    | error failure' =>
      simp only [hresolve] at h
      cases h
      exact ⟨k, e, List.mem_cons_self .., hresolve⟩
    | ok resolved =>
      simp only [hresolve] at h
      obtain ⟨key, e', hmem, hfails⟩ := ih h
      exact ⟨key, e', List.mem_cons_of_mem _ hmem, hfails⟩

theorem searchSources_error {sources : List Source} {found : KeyMap Shortcut} {failure : Failure}
    (h : f.searchSources store.supply query sources found = .error failure) :
    ∃ e, f.resolve store e = .error failure := by
  induction sources generalizing found with
  | nil => cases h
  | cons t rest ih =>
    rw [searchSources_cons] at h
    cases hentries : store t with
    | none =>
      simp only [hentries] at h
      exact ih h
    | some entries =>
      simp only [hentries] at h
      cases hsearch : f.searchEntries store.supply query entries.entries found with
      | error failure' =>
        rw [hsearch] at h
        cases h
        obtain ⟨_, e, _, hfails⟩ := f.searchEntries_error store query hsearch
        exact ⟨e, hfails⟩
      | ok between =>
        rw [hsearch] at h
        exact ih h

/-- A search fails with the failure of an entry. -/
theorem search_error {failure : Failure} (h : f.search store.supply query = .error failure) :
    ∃ e, f.resolve store e = .error failure :=
  f.searchSources_error store _ h

theorem get?_insert_hit? (found : KeyMap Shortcut) (key : String) (e : Entry) (name : String) :
    (((f.hit? store query e).map (found.insert key)).getD found).get? name =
      if name = key then (f.hit? store query e).or (found.get? name) else found.get? name := by
  cases f.hit? store query e with
  | none => simp
  | some s =>
    rw [Option.map_some, Option.getD_some, KeyMap.get?_insert]
    rfl

/-- A namespace puts its hits before those found so far. -/
theorem get?_searchEntries {entries : List (String × Entry)}
    (hkeys : (entries.map Prod.fst).Nodup) {found results : KeyMap Shortcut}
    (h : f.searchEntries store.supply query entries found = .ok results) (key : String) :
    results.get? key =
      ((entries.lookup key).bind (f.hit? store query)).or (found.get? key) := by
  induction entries generalizing found with
  | nil =>
    obtain rfl : found = results := Except.ok.inj h
    rfl
  | cons head rest ih =>
    obtain ⟨k, e⟩ := head
    rw [List.map_cons, List.nodup_cons] at hkeys
    rw [searchEntries_cons] at h
    cases hresolve : f.resolve store e with
    | error failure => simp [hresolve] at h
    | ok resolved =>
      simp only [hresolve] at h
      rw [ih hkeys.2 h, get?_insert_hit?, Sorted.lookup_cons]
      by_cases hkey : key = k
      · have habsent : rest.lookup key = none := by
          refine List.lookup_eq_none_iff.2 fun x hx => ?_
          have hne : key ≠ x.1 := by
            intro heq
            exact hkeys.1 (List.mem_map.2 ⟨x, hx, heq.symm.trans hkey⟩)
          simpa using hne
        rw [if_pos hkey, if_pos hkey, habsent]
        rfl
      · rw [if_neg hkey, if_neg hkey]

/-- The last of the sources that has a hit for a key decides on it. -/
theorem get?_searchSources {sources : List Source} {found results : KeyMap Shortcut}
    (h : f.searchSources store.supply query sources found = .ok results) (key : String) :
    results.get? key = (sources.reverse.findSome? fun t =>
      (store.entry? t key).bind (f.hit? store query)).or (found.get? key) := by
  induction sources generalizing found with
  | nil =>
    obtain rfl : found = results := Except.ok.inj h
    rfl
  | cons t rest ih =>
    rw [searchSources_cons] at h
    rw [List.reverse_cons, List.findSome?_append, Option.or_assoc, List.findSome?_singleton]
    cases hentries : store t with
    | none =>
      simp only [hentries] at h
      simp [ih h, Store.entry?, hentries]
    | some entries =>
      simp only [hentries] at h
      cases hsearch : f.searchEntries store.supply query entries.entries found with
      | error failure => simp [hsearch, Except.bind] at h
      | ok between =>
        rw [hsearch] at h
        rw [ih h, f.get?_searchEntries store query entries.distinct hsearch, Store.entry?,
          hentries]
        rfl

/-- The shortcut that a search lists under a key comes from the least important namespace that
has a hit for it. -/
theorem get?_searchLowered {results : KeyMap Shortcut}
    (h : f.searchLowered store.supply query = .ok results) (key : String) :
    results.get? key = f.namespaces.findSome? fun t =>
      (store.entry? t key).bind (f.hit? store query) := by
  have hresults := f.get?_searchSources store query h key
  rw [List.reverse_reverse, KeyMap.get?_empty, Option.or_none] at hresults
  exact hresults

/-- A lookup with one step more than the usual depth finds what a search lists. -/
theorem find_of_search {query key : String} {s : Shortcut} {results : KeyMap Shortcut}
    (hsearch : f.search store.supply query = .ok results) (hkey : results.get? key = some s)
    (honce : store.DefinedOnce f.namespaces key) :
    f.find store.supply key none (maxIncludeDepth + 1) = .ok (some s) := by
  rw [f.get?_searchLowered store _ hsearch] at hkey
  obtain ⟨t, ht, hhit⟩ := List.exists_of_findSome?_eq_some hkey
  obtain ⟨e, he, hhit⟩ := Option.bind_eq_some_iff.1 hhit
  obtain ⟨hresolve, _⟩ := f.resolve_of_hit? store _ hhit
  rw [find_eq, find_succ, Option.getD_none, honce.deciding?_eq ht he]
  rw [resolve_eq] at hresolve
  exact hresolve

/-- What a search lists under a key that only one namespace has takes at most one nested lookup
more than the usual depth. It is found under its key exactly if it does not take that one, and
otherwise refused as circular. -/
theorem find_of_search_iff {query key : String} {s : Shortcut} {results : KeyMap Shortcut}
    (hsearch : f.search store.supply query = .ok results) (hkey : results.get? key = some s)
    (honce : store.DefinedOnce f.namespaces key) :
    ∃ n ≤ maxIncludeDepth + 1,
      Answers store f.language n f.namespaces (.lookup key) (.ok (some s)) ∧
      (f.find store.supply key none maxIncludeDepth = .ok (some s) ↔ n ≤ maxIncludeDepth) ∧
      (n = maxIncludeDepth + 1 →
        ∃ k, f.find store.supply key none maxIncludeDepth = .error (.circularInclusion k)) := by
  have hfind := f.find_of_search store hsearch hkey honce
  simp only [find_eq_attempt, Option.getD_none] at hfind ⊢
  have hdefinite : Definite (attempt store f.language (maxIncludeDepth + 1) f.namespaces
      (.lookup key)) := by
    intro k hk
    have hcontra := hfind.symm.trans hk
    cases hcontra
  obtain ⟨n, hn, hanswer⟩ := covered _ _ _ hdefinite
  rw [hfind] at hanswer
  refine ⟨n, hn, hanswer, ⟨fun hfound => ?_, fun hle => hanswer.attempt_eq hle⟩, fun heq => ?_⟩
  · by_cases hle : n ≤ maxIncludeDepth
    · exact hle
    · obtain ⟨k, hk⟩ := hanswer.attempt_of_lt (show maxIncludeDepth < n by omega)
      have hcontra := hfound.symm.trans hk
      cases hcontra
  · exact hanswer.attempt_of_lt (show maxIncludeDepth < n by omega)

end Finder

namespace Sample

theorem longChain_definedOnce (key : String)
    (h : longChain.entry? (.official "o") key ≠ none) :
    longChain.DefinedOnce finder.namespaces key := by
  refine ⟨.official "o", by decide, h, ?_⟩
  intro u hu hentry
  rcases List.mem_cons.1 hu with rfl | hu
  · rfl
  · obtain rfl := List.mem_singleton.1 hu
    exact absurd rfl hentry

theorem longChain_search : ∃ results, finder.search longChain.supply "End" = .ok results ∧
    results.get? "k0 1" = some chainEnd ∧ results.get? "k1 1" = some chainEnd :=
  ⟨_, rfl, rfl, rfl⟩

/-- Nine includes, the most for which a listed entry is found. -/
theorem longChain_listed : ∃ results, finder.search longChain.supply "End" = .ok results ∧
    results.get? "k1 1" = some chainEnd ∧
    longChain.DefinedOnce finder.namespaces "k1 1" ∧
    ∃ n ≤ maxIncludeDepth + 1,
      Lookup.Answers longChain finder.language n finder.namespaces (.lookup "k1 1")
        (.ok (some chainEnd)) ∧
      (finder.find longChain.supply "k1 1" none maxIncludeDepth = .ok (some chainEnd) ↔
        n ≤ maxIncludeDepth) ∧
      (n = maxIncludeDepth + 1 → ∃ k, finder.find longChain.supply "k1 1" none maxIncludeDepth =
        .error (.circularInclusion k)) := by
  have honce := longChain_definedOnce "k1 1" (by decide +kernel)
  obtain ⟨results, hsearch, _, hkey⟩ := longChain_search
  exact ⟨results, hsearch, hkey, honce, finder.find_of_search_iff longChain hsearch hkey honce⟩

/-- Ten includes: the entry is listed, but its key is refused as circular. -/
theorem longChain_refused : ∃ results, finder.search longChain.supply "End" = .ok results ∧
    results.get? "k0 1" = some chainEnd ∧
    longChain.DefinedOnce finder.namespaces "k0 1" ∧
    finder.find longChain.supply "k0 1" none maxIncludeDepth ≠ .ok (some chainEnd) := by
  have honce := longChain_definedOnce "k0 1" (by decide +kernel)
  have hrefused : finder.find longChain.supply "k0 1" none maxIncludeDepth =
      .error (.circularInclusion "k10 1") := rfl
  obtain ⟨results, hsearch, hkey, _⟩ := longChain_search
  exact ⟨results, hsearch, hkey, honce, by simp [hrefused]⟩

end Sample

end Shortcuts
