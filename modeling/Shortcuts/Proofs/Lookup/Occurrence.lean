import Shortcuts.Proofs.Lookup.Listing

/-!
Searching for what stands literally in a shortcut. Text and query are lower-cased apart from each
other, so a search finds all literal occurrences of a query exactly if the lower-case form of the
query does not depend on what stands around it, which a capital sigma at its start or end can make
it do.
-/
namespace Shortcuts

/-- The title, the description or the url contains the query as it is. -/
def Shortcut.Shows (s : Shortcut) (query : String) : Prop :=
  ∃ text ∈ s.title.toList ++ s.description.toList ++ s.url.toList, query.toList <:+: text.toList

/-- Whatever shows the query is found by it. -/
structure FindsOccurrences (query : String) : Prop where
  mentions : ∀ s : Shortcut, s.Shows query →
    s.mentions (String.ofList (Text.lowercase query.toList)) = true
  lists : ∀ (f : Finder) (store : Store) results,
    f.search store.supply query = .ok results → ∀ t ∈ f.namespaces, ∀ key e s,
      store.entry? t key = some e → f.resolve store e = .ok (some s) → s.Shows query →
        ∃ found, results.get? key = some found

theorem Shortcut.Shows.lowered {s : Shortcut} {query : String} (h : s.Shows query)
    (hsteady : Text.Steady query.toList) :
    ∃ text ∈ s.title.toList ++ s.description.toList ++ s.url.toList,
      Text.lowercase query.toList <:+: Text.lowercase text.toList := by
  obtain ⟨text, htext, before, after, heq⟩ := h
  refine ⟨text, htext, ?_⟩
  rw [← heq, List.append_assoc]
  exact (Text.steady_iff _).1 hsteady before after

/-- All occurrences of a query are found exactly if it is steady. -/
theorem findsOccurrences_iff (query : String) :
    FindsOccurrences query ↔ Text.Steady query.toList := by
  constructor
  · intro h
    rw [Text.steady_iff]
    intro before after
    -- A shortcut of which the title alone is set leaves no other place to find the query in.
    let title := String.ofList (before ++ (query.toList ++ after))
    have hshows : Shortcut.Shows { Shortcut.empty with title := some title } query :=
      ⟨title, List.mem_singleton.2 rfl, before, after, by simp [title]⟩
    have hmentions := h.mentions _ hshows
    rw [Finder.mentions_iff] at hmentions
    simpa [Shortcut.empty, title] using hmentions
  · intro hsteady
    constructor
    · intro s hshows
      exact (Finder.mentions_iff query s).2 (hshows.lowered hsteady)
    · intro f store results hresults t ht key e s he hresolve hshows
      rw [f.get?_search_isSome_iff store query hresults]
      exact ⟨t, ht, s, e, he, hresolve, hshows.lowered hsteady⟩

namespace Sample

/-- Road signs, whose Greek name begins with the word for a road. -/
def roadSigns : Shortcut :=
  { titled "ΟΔΟΣΗΜΑΝΣΗ" with url := some "https://signs.example/<q>" }

def signs : Store
  | .official "o" => some (.ofList [("signs 1", .full ⟨none, roadSigns⟩)])
  | _ => none

/-- The sigma that ends the query stands inside a word in the title. -/
theorem roadSigns_not_found :
    roadSigns.Shows "ΟΔΟΣ" ∧
    (∃ results, finder.search signs.supply "ΟΔΟΣ" = .ok results ∧
      results.get? "signs 1" = none) ∧
    ¬ FindsOccurrences "ΟΔΟΣ" := by
  have hshows : roadSigns.Shows "ΟΔΟΣ" :=
    ⟨"ΟΔΟΣΗΜΑΝΣΗ", by decide, [], "ΗΜΑΝΣΗ".toList, by decide⟩
  have hsearch : ((finder.search signs.supply "ΟΔΟΣ").toOption.map
      (·.get? "signs 1")) = some none := by decide +kernel
  obtain ⟨results, hresults, hnone⟩ := Option.map_eq_some_iff.1 hsearch
  refine ⟨hshows, ⟨results, Except.toOption_eq_some_iff.1 hresults, hnone⟩, fun h => ?_⟩
  have hmentions := h.mentions roadSigns hshows
  revert hmentions
  decide +kernel

end Sample

end Shortcuts
