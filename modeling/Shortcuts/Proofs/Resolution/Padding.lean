import Shortcuts.Proofs.Lookup.Stocked
import Shortcuts.Proofs.Query.Lossless
import Shortcuts.Sample

/-!
Namespaces without data do no harm. Put into a list of namespaces at whatever places, they change
neither lookups nor searches, and a prefix that names one changes nothing about a query.
-/
namespace Shortcuts

namespace Source

variable {p : Source → Bool}

/-- Sources that are one are kept together or left out together, so it does not matter whether
this is done before merging or after. -/
theorem filter_addNew (hp : ∀ s t, s.same t = true → p s = p t) (seen more : List Source) :
    (addNew seen more).filter p = addNew (seen.filter p) (more.filter p) := by
  induction more generalizing seen with
  | nil => rfl
  | cons s rest ih =>
    have hseen : p s = true → (seen.filter p).any s.same = seen.any s.same := by
      intro hs
      rw [Bool.eq_iff_iff, List.any_eq_true, List.any_eq_true]
      constructor
      · rintro ⟨t, ht, hsame⟩
        exact ⟨t, (List.mem_filter.1 ht).1, hsame⟩
      · rintro ⟨t, ht, hsame⟩
        exact ⟨t, List.mem_filter.2 ⟨ht, (hp s t hsame).symm.trans hs⟩, hsame⟩
    rw [addNew]
    by_cases hs : p s = true
    · rw [List.filter_cons_of_pos hs, addNew, hseen hs]
      split
      · exact ih seen
      · rw [ih, List.filter_append, List.filter_cons_of_pos hs, List.filter_nil]
    · rw [List.filter_cons_of_neg hs]
      split
      · exact ih seen
      · rw [ih, List.filter_append, List.filter_cons_of_neg hs, List.filter_nil, List.append_nil]

theorem eq_official_iff_of_same {s t : Source} (h : s.same t = true) (name : String) :
    s = .official name ↔ t = .official name := by
  cases s <;> cases t <;> simp_all [same]

end Source

theorem Store.stocked_merge {store : Store} {name : String} (h : store (.official name) = none)
    (base rest : List Source) :
    store.stocked (Source.merge base (.official name :: rest)) =
      store.stocked (Source.merge base rest) := by
  have hother : ∀ sources : List Source,
      store.stocked (sources.filter fun s => s ≠ .official name) = store.stocked sources := by
    intro sources
    rw [stocked, List.filter_filter, stocked]
    apply List.filter_congr
    intro s _
    by_cases hs : s = .official name
    · simp [hs, h]
    · simp [hs]
  have hsame : ∀ s t : Source, s.same t = true →
      decide (s ≠ .official name) = decide (t ≠ .official name) := by
    intro s t hst
    simp only [ne_eq, Source.eq_official_iff_of_same hst name]
  rw [← hother, ← hother (Source.merge base rest), Source.merge, Source.merge,
    Source.filter_addNew hsame, Source.filter_addNew hsame, List.filter_append, List.filter_append,
    List.filter_cons_of_neg (by simp)]

namespace Query

/-- The first word of a text that does not start with white space is where the text starts. -/
theorem fst_cut_isPrefix {text : List Char}
    (h : ∀ c, text.head? = some c → Text.isBlank c = false) : (cut text).1 <+: text := by
  obtain ⟨behind, htrim, _⟩ := cut_spec text
  have hword : (cut text).1 <+: Text.trim text := ⟨behind, htrim.symm⟩
  rw [Text.trim, Text.trimStart_of_head h] at hword
  exact hword.trans (Text.isPrefix_trimEnd text)

/-- A name and a dot in front of a query add a namespace, unless the name is taken for a language
or the query would start with a country without it. -/
theorem parse_behind {name text : String} (hne : name ≠ "")
    (hname : ∀ c ∈ name.toList, c ≠ '.' ∧ Text.isBlank c = false) (hlength : name.length ≠ 2)
    (htext : ∀ c, text.toList.head? = some c → c ≠ '.' ∧ Text.isBlank c = false) :
    parse (name ++ "." ++ text) =
      { parse text with namespaces := name :: (parse text).namespaces } := by
  have hblank : ∀ c ∈ name.toList ++ ['.'], Text.isBlank c = false := by
    intro c hc
    rcases List.mem_append.1 hc with hc | hc
    · exact (hname c hc).2
    · exact List.mem_singleton.1 hc ▸ rfl
  have hword : (cut text.toList).1 <+: text.toList := fst_cut_isPrefix fun c hc => (htext c hc).2
  have hbehind : cut (name ++ "." ++ text).toList =
      (name.toList ++ '.' :: (cut text.toList).1, (cut text.toList).2) := by
    rw [String.toList_append, String.toList_append, List.append_cons]
    exact cut_append hblank fun c hc => (htext c hc).2
  obtain ⟨word, rest, hcut⟩ : ∃ word rest, cut text.toList = (word, rest) := ⟨_, _, rfl⟩
  rw [hcut] at hword hbehind
  obtain ⟨front, last, hsplit⟩ := Text.exists_split_concat '.' word
  have hsplit' : Text.split '.' (name.toList ++ '.' :: word) = name.toList :: front ++ [last] := by
    rw [Text.split_append (fun hdot => (hname '.' hdot).1 rfl), hsplit]
    rfl
  -- neither the name nor the first piece of the query is empty, so neither announces a country
  have hcountry : countryOf front = (none, front) := by
    apply countryOf_of_head?
    intro hhead
    have hdot : word.head? = some '.' := by
      rw [← Text.head?_dropLast_split, hsplit, List.dropLast_concat, hhead]
    obtain ⟨behind, htail⟩ := hword
    refine (htext '.' ?_).1 rfl
    rw [← htail, List.head?_append, hdot]
    rfl
  have hcountry' : countryOf (name.toList :: front) = (none, name.toList :: front) :=
    countryOf_of_head? (by simpa using hne)
  have hlanguage : languageOf (name.toList :: front) = languageOf front :=
    List.find?_cons_of_neg (by rw [String.length_toList]; simpa using hlength)
  rw [parse_eq hbehind hsplit', parse_eq hcut hsplit, namesOf, namesOf, hcountry, hcountry',
    hlanguage]
  simp

end Query

namespace Environment

variable (e : Environment) (store : Store) (clock : Template.Clock)

/-- Once a shortcut is found, the namespaces do not matter any more. -/
theorem outcome_congr {e e' : Environment} {q q' : Query} (s : Shortcut)
    (hlanguage : e.language = e'.language) (hcountry : e.country = e'.country)
    (hkeyword : q.keyword = q'.keyword) (harguments : q.arguments = q'.arguments) :
    e.outcome clock q s = e'.outcome clock q' s := by
  simp only [outcome, open?, setting, hlanguage, hcountry, hkeyword, harguments]

theorem process_behind {name text : String} (hdefault : e.defaultKeyword = none)
    (hstore : store (.official name) = none)
    (hparse : Query.parse (name ++ "." ++ text) =
      { Query.parse text with namespaces := name :: (Query.parse text).namespaces }) :
    e.process store.supply clock (name ++ "." ++ text) = e.process store.supply clock text := by
  have hnamespaces : store.stocked (e.adjusted (Query.parse (name ++ "." ++ text))).namespaces =
      store.stocked (e.adjusted (Query.parse text)).namespaces := by
    rw [hparse]
    exact Store.stocked_merge hstore e.namespaces _
  have hlanguage : (Query.parse (name ++ "." ++ text)).language = (Query.parse text).language := by
    rw [hparse]
  have hfinder : (e.adjusted (Query.parse (name ++ "." ++ text))).finder.stocked store =
      (e.adjusted (Query.parse text)).finder.stocked store := by
    simp only [Finder.stocked, finder, hnamespaces]
    simp only [adjusted, hlanguage]
  have hlookUp : e.lookUp store (name ++ "." ++ text) = e.lookUp store text := by
    rw [lookUp, lookUp, ← Finder.findKeyword_stocked, hfinder, Finder.findKeyword_stocked, hparse]
  rw [process_supply, process_supply, hlookUp, fallBack_supply, fallBack_supply, hdefault, hparse]
  generalize Query.parse text = q
  cases e.lookUp store text with
  | error failure => rfl
  | ok found =>
    cases found with
    | none => rfl
    | some s =>
      simp only
      exact outcome_congr clock s rfl rfl rfl rfl

/-- Namespaces without data change neither lookups nor searches, wherever they are put, and a
prefix that names one changes nothing. -/
theorem unchanged_by_padding (store : Store) :
    (∀ namespaces padded language, store.Padded namespaces padded →
      (∀ key depth, (Finder.mk padded language).find store.supply key none depth =
        (Finder.mk namespaces language).find store.supply key none depth) ∧
      (∀ keyword count, (Finder.mk padded language).findKeyword store.supply keyword count =
        (Finder.mk namespaces language).findKeyword store.supply keyword count) ∧
      ∀ query, (Finder.mk padded language).search store.supply query =
        (Finder.mk namespaces language).search store.supply query) ∧
    ∀ (e : Environment) (clock : Template.Clock) (name text : String),
      e.defaultKeyword = none → name ≠ "" →
      (∀ c ∈ name.toList, c ≠ '.' ∧ Text.isBlank c = false) → name.length ≠ 2 →
      store (.official name) = none →
      (∀ c, text.toList.head? = some c → c ≠ '.' ∧ Text.isBlank c = false) →
      e.process store.supply clock (name ++ "." ++ text) = e.process store.supply clock text := by
  constructor
  · intro namespaces padded language h
    have hfinder : (Finder.mk padded language).stocked store =
        (Finder.mk namespaces language).stocked store :=
      congrArg (Finder.mk · language) h.stocked_eq
    refine ⟨fun key depth => ?_, fun keyword count => ?_, fun query => ?_⟩
    · rw [← Finder.find_stocked, hfinder, Finder.find_stocked]
    · rw [← Finder.findKeyword_stocked, hfinder, Finder.findKeyword_stocked]
    · rw [← Finder.search_stocked, hfinder, Finder.search_stocked]
  · intro e clock name text hdefault hne hname hlength hstore htext
    exact e.process_behind store clock hdefault hstore
      (Query.parse_behind hne hname hlength htext)

end Environment

namespace Sample

/-- Two namespaces whose entries include each other's. -/
def crossing : Store
  | .official "o" => some (.ofList [
    ("w 1", including (.key "wiki 1") (titled "W")),
    ("pedia 1", shortcut "P" "https://<$language>.pedia.example/<q>")])
  | .official "de" => some (.ofList [("wiki 1", including (.key "pedia 1") .empty)])
  | _ => none

def crossed : Shortcut :=
  { titled "W" with url := some "https://<$language>.pedia.example/<q>" }

def crossedNamespaces : List Source :=
  [.official "maps", .official "o", .official ".de", .official "de", .official "maps"]

theorem crossing_padded :
    crossing.Padded [.official "o", .official "de"] crossedNamespaces :=
  .pad rfl (.keep _ (.pad rfl (.keep _ (.pad rfl .nil))))

/-- Every include leads past a namespace without data, and so does the query. -/
theorem crossing_unchanged :
    crossing.Padded [.official "o", .official "de"] crossedNamespaces ∧
    (Finder.mk crossedNamespaces "de").find crossing.supply "w 1" none 3 = .ok (some crossed) ∧
    (Finder.mk crossedNamespaces "de").findKeyword crossing.supply "w" 2 = .ok (some crossed) ∧
    environment.process crossing.supply clock ("maps" ++ "." ++ "fr.w Köln") =
      .ok (.success "https://fr.pedia.example/K%C3%B6ln" crossed) := by
  have hfind : (Finder.mk [.official "o", .official "de"] "de").find crossing.supply "w 1" none 3 =
      .ok (some crossed) := rfl
  have hfindKeyword : (Finder.mk [.official "o", .official "de"] "de").findKeyword crossing.supply
      "w" 2 = .ok (some crossed) := rfl
  have hprocess : environment.process crossing.supply clock "fr.w Köln" =
      .ok (.success "https://fr.pedia.example/K%C3%B6ln" crossed) :=
    Except.toOption_eq_some_iff.1 (by decide +kernel)
  have hunchanged := Environment.unchanged_by_padding crossing
  obtain ⟨hlookup, hkeyword, _⟩ := hunchanged.1 _ _ "de" crossing_padded
  have hname : ∀ c ∈ "maps".toList, c ≠ '.' ∧ Text.isBlank c = false := by simp [Text.isBlank]
  have htext : ∀ c, "fr.w Köln".toList.head? = some c → c ≠ '.' ∧ Text.isBlank c = false := by
    rintro _ ⟨⟩
    exact ⟨by decide, rfl⟩
  have hbehind := hunchanged.2 environment clock "maps" "fr.w Köln" rfl (by decide) hname
    (by decide) rfl htext
  exact ⟨crossing_padded, (hlookup "w 1" 3).trans hfind, (hkeyword "w" 2).trans hfindKeyword,
    hbehind.trans hprocess⟩

end Sample

end Shortcuts
