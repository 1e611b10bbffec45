import Shortcuts.Proofs.Query.Bare
import Shortcuts.Proofs.Resolution.Process
import Shortcuts.Sample

/-!
Prefixes. What a query with prefixes comes to, the same query without them comes to as well, in an
environment that has the country, the language and the namespaces they ask for.
-/
namespace Shortcuts

namespace Source

/-! ## Merging -/

theorem addNew_eq_loop (seen more : List Source) :
    addNew seen more = List.eraseDupsBy.loop same more seen.reverse := by
  induction more generalizing seen with
  | nil => rw [addNew, List.eraseDupsBy.loop, List.reverse_reverse]
  | cons s rest ih =>
    rw [addNew, List.eraseDupsBy.loop, List.any_reverse]
    cases seen.any s.same with
    | true => exact ih seen
    | false =>
      rw [if_neg Bool.false_ne_true, ih, List.reverse_append]
      rfl

theorem merge_eq (base additional : List Source) :
    merge base additional = (base ++ additional).eraseDupsBy same :=
  addNew_eq_loop [] _

theorem addNew_append (seen more rest : List Source) :
    addNew seen (more ++ rest) = addNew (addNew seen more) rest := by
  induction more generalizing seen with
  | nil => rfl
  | cons s more ih =>
    rw [List.cons_append, addNew, addNew]
    split <;> exact ih _

/-- No source in the list is one with a source before it. -/
def Distinct (sources : List Source) : Prop :=
  sources.Pairwise fun s t => t.same s = false

theorem Distinct.addNew {seen : List Source} (h : Distinct seen) (more : List Source) :
    Distinct (addNew seen more) := by
  induction more generalizing seen with
  | nil => exact h
  | cons s rest ih =>
    rw [Source.addNew]
    split
    · exact ih h
    · rename_i hnew
      refine ih (List.pairwise_append.2 ⟨h, List.pairwise_singleton _ _, fun t ht u hu => ?_⟩)
      rw [List.mem_singleton.1 hu]
      rw [List.any_eq_true, not_exists] at hnew
      exact Bool.eq_false_iff.2 fun hsame => hnew t ⟨ht, hsame⟩

theorem addNew_of_distinct {seen more : List Source} (h : Distinct (seen ++ more)) :
    addNew seen more = seen ++ more := by
  induction more generalizing seen with
  | nil => rw [addNew, List.append_nil]
  | cons s rest ih =>
    have hnew : seen.any s.same = false := by
      rw [List.any_eq_false]
      intro t ht
      rw [(List.pairwise_append.1 h).2.2 t ht s (List.mem_cons_self ..)]
      exact Bool.false_ne_true
    rw [addNew, hnew, if_neg Bool.false_ne_true, ih (by rwa [List.append_assoc]),
      List.append_assoc]
    rfl

theorem merge_merge_nil (base additional : List Source) :
    merge (merge base additional) [] = merge base additional := by
  have hdistinct : Distinct (merge base additional) := Distinct.addNew List.Pairwise.nil _
  rw [merge, List.append_nil, addNew_of_distinct (by rwa [List.nil_append]), List.nil_append]

/-- A source that is one with itself is found among those it was added to. -/
theorem any_addNew {s : Source} (hself : s.same s = true) {seen more : List Source}
    (h : seen.any s.same = true ∨ s ∈ more) : (addNew seen more).any s.same = true := by
  induction more generalizing seen with
  | nil => exact h.resolve_right List.not_mem_nil
  | cons t rest ih =>
    rw [addNew]
    split
    · rename_i hseen
      refine ih (h.elim .inl fun hmem => ?_)
      rcases List.mem_cons.1 hmem with rfl | hmem
      · exact .inl hseen
      · exact .inr hmem
    · refine ih (h.elim (fun hseen => .inl ?_) fun hmem => ?_)
      · rw [List.any_append, hseen, Bool.true_or]
      · rcases List.mem_cons.1 hmem with rfl | hmem
        · exact .inl (by rw [List.any_append, List.any_cons, hself, Bool.true_or, Bool.or_true])
        · exact .inr hmem

theorem addNew_of_any {seen more : List Source} (h : ∀ s ∈ more, seen.any s.same = true) :
    addNew seen more = seen := by
  induction more with
  | nil => rfl
  | cons s rest ih =>
    rw [List.forall_mem_cons] at h
    rw [addNew, if_pos h.1, ih h.2]

theorem same_official (name : String) : (official name).same (official name) = true :=
  decide_eq_true rfl

theorem merge_of_mem {base : List Source} {names : List String}
    (h : ∀ name ∈ names, .official name ∈ base) :
    merge base (names.map .official) = merge base [] := by
  rw [merge, merge, List.append_nil, addNew_append]
  refine addNew_of_any fun s hs => ?_
  obtain ⟨name, hname, rfl⟩ := List.mem_map.1 hs
  exact any_addNew (same_official name) (.inr (h name hname))

end Source

namespace Environment

variable (e : Environment) (store : Store) (clock : Template.Clock) (text : String)

/-! ## Queries in adjusted environments -/

/-- Without a default keyword only the keyword, the arguments and the adjusted environment
decide. -/
theorem process_congr {e e' : Environment} {text text' : String}
    (hdefault : e.defaultKeyword = none)
    (hadjusted : e.adjusted (Query.parse text) = e'.adjusted (Query.parse text'))
    (hkeyword : (Query.parse text).keyword = (Query.parse text').keyword)
    (harguments : (Query.parse text).arguments = (Query.parse text').arguments) :
    e.process store.supply clock text = e'.process store.supply clock text' := by
  have hdefault' : e'.defaultKeyword = none := by
    rw [← hdefault]
    exact (congrArg defaultKeyword hadjusted).symm
  have hlookUp : e.lookUp store text = e'.lookUp store text' := by
    rw [lookUp, lookUp, hadjusted, hkeyword, harguments]
  rw [process_supply, process_supply, hlookUp, fallBack_supply, fallBack_supply, hdefault,
    hdefault', hadjusted]
  cases e'.lookUp store text' with
  | error failure => rfl
  | ok found =>
    cases found with
    | none => rfl
    | some s => simp only [outcome, hkeyword, harguments]

/-- The environment with the country, the language and the namespaces of a query. -/
def prefixed (q : Query) : Environment :=
  { e with
    country := q.country.getD e.country
    language := q.language.getD e.language
    namespaces := (e.namespaces ++ q.namespaces.map Source.official).eraseDupsBy Source.same }

/-- The environment with the country and the language of a query only. -/
def localized (q : Query) : Environment :=
  { e with
    country := q.country.getD e.country
    language := q.language.getD e.language }

theorem prefixed_adjusted (q : Query) (keyword : String) (arguments : List String) :
    (e.prefixed q).adjusted ⟨keyword, arguments, [], none, none⟩ = e.adjusted q := by
  simp only [adjusted, prefixed, Option.getD_none, List.map_nil, ← Source.merge_eq,
    Source.merge_merge_nil]

theorem localized_adjusted {q : Query} (keyword : String) (arguments : List String)
    (hnamed : ∀ name ∈ q.namespaces, .official name ∈ e.namespaces) :
    (e.localized q).adjusted ⟨keyword, arguments, [], none, none⟩ = e.adjusted q := by
  simp only [adjusted, localized, Option.getD_none, List.map_nil, Source.merge_of_mem hnamed]

/-- A query with prefixes comes to what it comes to without them in the environment they ask for.
If they name no namespace that is not there anyway, only country and language matter. -/
theorem process_bare (hdefault : e.defaultKeyword = none)
    (hne : (Query.parse text).keyword ≠ "")
    (hblank : ∀ c ∈ (Query.parse text).keyword.toList, Text.isBlank c = false) :
    e.process store.supply clock text =
      (e.prefixed (Query.parse text)).process store.supply clock (Query.parse text).bare ∧
    ((∀ name ∈ (Query.parse text).namespaces, .official name ∈ e.namespaces) →
      e.process store.supply clock text =
        (e.localized (Query.parse text)).process store.supply clock (Query.parse text).bare) := by
  have hbare := Query.parse_bare hne hblank (Query.separated_arguments text)
    (Query.dot_notMem_keyword text)
  constructor
  · refine process_congr store clock hdefault ?_ (by rw [hbare]) (by rw [hbare])
    rw [hbare, prefixed_adjusted]
  · intro hnamed
    refine process_congr store clock hdefault ?_ (by rw [hbare]) (by rw [hbare])
    rw [hbare, e.localized_adjusted _ _ hnamed]

end Environment

namespace Sample

/-- One keyword in two namespaces. -/
def travel : Store
  | .official "o" => some (.ofList [
    ("w 1", shortcut "Wikipedia (Deutsch)" "https://de.wikipedia.org/?search=<query>")])
  | .official "en" => some (.ofList [
    ("w 1", shortcut "Wikipedia" "https://<$language>.wikipedia.org/?search=<query>")])
  | _ => none

def abroad : String := " .gb.en.w  Big Ben , Tower"

def athome : String := ".de.de.w Köln"

def abroadVisit : Outcome :=
  .success "https://en.wikipedia.org/?search=Big%20Ben%2CTower"
    { titled "Wikipedia" with url := some "https://<$language>.wikipedia.org/?search=<query>" }

/-- The environment that the prefixes of the query abroad ask for. -/
def abroadEnvironment : Environment where
  country := "gb"
  language := "en"
  namespaces := [.official "o", .official "de", .official ".de", .official ".gb", .official "en"]
  defaultKeyword := none

/-- Two arguments for one slot, with prefixes that lead elsewhere and with some that do not. -/
theorem travel_bare :
    environment.defaultKeyword = none ∧ (Query.parse abroad).keyword = "w" ∧
    environment.process travel.supply clock abroad = .ok abroadVisit ∧
    abroadEnvironment.process travel.supply clock "w Big Ben,Tower" = .ok abroadVisit ∧
    environment.process travel.supply clock athome =
      environment.process travel.supply clock "w Köln" := by
  have hvisit : environment.process travel.supply clock abroad = .ok abroadVisit :=
    Except.toOption_eq_some_iff.1 (by decide +kernel)
  have hword : "w" ≠ "" ∧ ∀ c ∈ "w".toList, Text.isBlank c = false :=
    ⟨by decide, List.forall_mem_singleton.2 rfl⟩
  have hparse : Query.parse abroad =
      ⟨"w", ["Big Ben", "Tower"], [".gb", "en"], some "en", some "gb"⟩ := by decide +kernel
  have hprefixed : environment.prefixed (Query.parse abroad) = abroadEnvironment := by
    rw [hparse]
    rfl
  have habroad := environment.process_bare travel clock abroad rfl
    (hparse ▸ hword.1) (hparse ▸ hword.2)
  rw [hprefixed, hparse] at habroad
  have hparse' : Query.parse athome =
      ⟨"w", ["Köln"], [".de", "de"], some "de", some "de"⟩ := by decide +kernel
  have hathome := environment.process_bare travel clock athome rfl
    (hparse' ▸ hword.1) (hparse' ▸ hword.2)
  rw [hparse'] at hathome
  exact ⟨rfl, congrArg Query.keyword hparse, hvisit, habroad.1.symm.trans hvisit,
    hathome.2 (by decide)⟩

end Sample

end Shortcuts
