import Shortcuts.Proofs.Resolution.Retired
import Shortcuts.Proofs.Template.Layout
import Shortcuts.Proofs.Text.Percent

/-!
What becomes of the arguments of a query. If the templates in a store take as many arguments as
their keys say, then a query that is opened has put something into each slot, and what has been
put there stands for the arguments of the query, none of them lost.
-/
namespace Shortcuts

namespace Text

theorem join_append_join (sep : List Char) (texts : List (List Char)) {rest : List (List Char)}
    (h : rest ≠ []) : join sep (texts ++ [join sep rest]) = join sep (texts ++ rest) := by
  unfold join
  induction texts with
  | nil => exact List.intercalate_singleton
  | cons text texts ih =>
    rw [List.cons_append, List.cons_append, List.intercalate_cons_of_ne_nil (by simp),
      List.intercalate_cons_of_ne_nil (by simp [h]), ih]

end Text

namespace Template

theorem join_foldSurplus (slots : Nat) (arguments : List (List Char)) :
    Text.join [','] (foldSurplus slots arguments) = Text.join [','] arguments := by
  rw [foldSurplus]
  split
  · rfl
  · rename_i hmany
    have hrest : arguments.drop (slots - 1) ≠ [] := by
      intro h
      have hlength := List.drop_eq_nil_iff.1 h
      omega
    rw [Text.join_append_join _ _ hrest, List.take_append_drop]

/-- Decoding the texts for the slots gives the arguments back. -/
theorem join_decode_slotValues (slots : Nat) (arguments : List String) :
    List.intercalate (Percent.bytes [',']) ((slotValues slots arguments).map Percent.decode) =
      Percent.bytes (Text.join [','] (arguments.map String.toList)) := by
  have hdecode : (slotValues slots arguments).map Percent.decode =
      (foldSurplus slots (arguments.map String.toList)).map Percent.bytes := by
    rw [slotValues, List.map_map]
    exact List.map_congr_left fun text _ => Percent.decode_encode text
  rw [hdecode, ← Percent.bytes_join, join_foldSurplus]

/-- A url is a template with the values of its variables and with these texts in its slots for
arguments, of which there are as many as texts. -/
structure Setting.FilledWith (s : Setting) (template : String) (texts : List (List Char))
    (url : String) : Prop where
  resolved : ∀ p ∈ placeholders template.toList, s.failure? p = none
  filled : texts.length = (argumentNames template.toList).length
  written : url.toList =
    (layout template.toList).write s.valueText fun j _ => texts.getD j []

theorem Setting.filledWith_of_expand {s : Setting} {template url : String}
    {arguments : List String} (h : s.expand template arguments = .ok url)
    (hnames : argumentNames template.toList ≠ [])
    (henough : (argumentNames template.toList).length ≤ arguments.length) :
    s.FilledWith template (slotValues (argumentNames template.toList).length arguments) url := by
  have hsome := List.length_pos_iff.2 hnames
  have hlength := length_slotValues (argumentNames template.toList).length arguments
  rw [if_neg (by omega), Nat.min_eq_right henough] at hlength
  obtain ⟨hresolved, hwritten⟩ := Setting.of_expand h
  refine ⟨hresolved, hlength, ?_⟩
  rw [hwritten, Layout.write, Layout.write]
  refine congrArg _ (Layout.writeFrom_congr _ _ _ fun j hj inner => ?_)
  rw [arity_layout, Nat.zero_add, ← hlength] at hj
  rw [List.getD_eq_getElem?_getD, List.getElem?_eq_getElem hj, Option.getD_some,
    Option.getD_some]

end Template

namespace Finder

/-- Every key with a count that a finder resolves to a shortcut with a url leads to a template
with that many slots for arguments. -/
def ArityConsistent (f : Finder) (store : Store) : Prop :=
  ∀ keyword count s template, 1 ≤ count →
    f.find store.supply (searchKey keyword count) none maxIncludeDepth = .ok (some s) →
    s.url = some template → (Template.argumentNames template.toList).length = count

theorem findCount_some {f : Finder} {store : Store} {keyword : String} {count : Nat} {s : Shortcut}
    (h : f.findCount store.supply keyword count = .ok (some s)) :
    ∃ c, 1 ≤ c ∧ c ≤ count ∧
      f.find store.supply (searchKey keyword c) none maxIncludeDepth = .ok (some s) := by
  obtain ⟨c, hdecides⟩ := (f.findCount_eq_iff store keyword (by simp) count).1 h
  exact ⟨c, hdecides.pos, hdecides.le, hdecides.result⟩

end Finder

namespace Environment

variable {e : Environment} {store : Store} {clock : Template.Clock} {text : String}

/-- Without a default keyword only the lookup for a text itself opens anything. -/
theorem lookUp_of_success {url : String} {s : Shortcut} (hdefault : e.defaultKeyword = none)
    (h : e.process store.supply clock text = .ok (.success url s)) :
    e.lookUp store text = .ok (some s) ∧ ∃ template, s.url = some template ∧
      ((e.adjusted (Query.parse text)).setting clock).expand template
        (Query.parse text).arguments = .ok url := by
  rw [process_supply] at h
  cases hlookup : e.lookUp store text with
  | error failure =>
    rw [hlookup] at h
    cases h
  | ok found =>
    rw [hlookup] at h
    cases found with
    | none =>
      simp only at h
      rw [fallBack_supply, hdefault] at h
      cases h
    | some s' =>
      obtain ⟨rfl, _, hopened⟩ := outcome_success h
      exact ⟨rfl, hopened⟩

/-- Where arities are consistent, a query that is opened fills all slots for arguments, and what
they are filled with decodes to its arguments. -/
theorem process_keeps_arguments (e : Environment) (store : Store) (clock : Template.Clock)
    (text url : String) (s : Shortcut) (hdefault : e.defaultKeyword = none)
    (hconsistent : (e.adjusted (Query.parse text)).finder.ArityConsistent store)
    (h : e.process store.supply clock text = .ok (.success url s)) :
    ∃ template texts, s.url = some template ∧
      ((e.adjusted (Query.parse text)).setting clock).FilledWith template texts url ∧
      List.intercalate (Percent.bytes [',']) (texts.map Percent.decode) =
        Percent.bytes (Text.join [','] ((Query.parse text).arguments.map String.toList)) := by
  obtain ⟨hlookup, template, hurl, hexpand⟩ := lookUp_of_success hdefault h
  rw [lookUp, Finder.findKeyword_supply] at hlookup
  obtain ⟨count, hpos, hle, hfind⟩ := Finder.findCount_some hlookup
  have hcount := hconsistent _ count s template hpos hfind hurl
  have hnames : Template.argumentNames template.toList ≠ [] := by
    rw [← List.length_pos_iff]
    omega
  have hfilled := Template.Setting.filledWith_of_expand hexpand hnames (by omega)
  exact ⟨template, _, hurl, hfilled, Template.join_decode_slotValues _ _⟩

end Environment

/-! ## A store with consistent arities -/

theorem blank_notMem_toDigits (n : Nat) : ' ' ∉ Nat.toDigits 10 n := by
  intro h
  have hdigit := Nat.isDigit_of_mem_toDigits (by omega) (by omega) h
  cases hdigit

theorem eq_nil_of_lastBlank {between word rest : List Char} (hword : ' ' ∉ word)
    (h : ' ' :: word = between ++ ' ' :: rest) : between = [] := by
  cases between with
  | nil => rfl
  | cons c between =>
    refine absurd ?_ hword
    rw [(List.cons.inj h).2]
    exact List.mem_append_right _ (List.mem_cons_self ..)

/-- The last blank of a search key parts the keyword from the count. -/
theorem searchKey_inj {keyword keyword' : String} {count count' : Nat}
    (h : searchKey keyword count = searchKey keyword' count') :
    keyword = keyword' ∧ count = count' := by
  have hchars : keyword.toList ++ ' ' :: Nat.toDigits 10 count =
      keyword'.toList ++ ' ' :: Nat.toDigits 10 count' := by
    simpa [searchKey] using congrArg String.toList h
  have hkeyword : keyword.toList = keyword'.toList := by
    -- The longer keyword would reach over a blank into the digits of the other count.
    rcases List.append_eq_append_iff.1 hchars with ⟨between, hword, hrest⟩ | ⟨between, hword, hrest⟩
    · rw [hword, eq_nil_of_lastBlank (blank_notMem_toDigits _) hrest, List.append_nil]
    · rw [hword, eq_nil_of_lastBlank (blank_notMem_toDigits _) hrest, List.append_nil]
  rw [hkeyword] at hchars
  have hcount := (List.cons.inj (List.append_cancel_left hchars)).2
  refine ⟨String.toList_inj.1 hkeyword, ?_⟩
  rw [← Text.decimal_toDigits count, hcount, Text.decimal_toDigits]

namespace Sample

/-- A trip is a route, and both take two arguments. -/
def counted : Store
  | .official "o" => some (.ofList [
    ("trip 2", including (.key "route 2") (titled "Trip")),
    ("route 2", shortcut "Route" "https://route.example/<$language>/<from>/<to>")])
  | _ => none

def route : Shortcut :=
  { titled "Route" with url := some "https://route.example/<$language>/<from>/<to>" }

theorem counted_entry? {s : Source} {key : String} {entry : Entry}
    (h : counted.entry? s key = some entry) :
    key = searchKey "trip" 2 ∨ key = searchKey "route" 2 := by
  obtain ⟨entries, hentries, hget⟩ := Option.bind_eq_some_iff.1 h
  unfold counted at hentries
  split at hentries
  · obtain rfl := Option.some.inj hentries
    have hmem := (Entries.keepLast_sublist _).mem ((Table.get?_eq_some_iff _ _ _).1 hget)
    rcases List.mem_cons.1 hmem with heq | hmem
    · exact .inl (congrArg Prod.fst heq)
    · exact .inr (congrArg Prod.fst (List.mem_singleton.1 hmem))
  · cases hentries

theorem counted_arityConsistent : environment.finder.ArityConsistent counted := by
  intro keyword count s template _ hfind hurl
  have hkey : searchKey keyword count = searchKey "trip" 2 ∨
      searchKey keyword count = searchKey "route" 2 := by
    have hdeciding := hfind
    rw [Finder.find_eq] at hdeciding
    obtain ⟨entry, hentry, _⟩ := Lookup.exists_deciding_of_find counted _ hdeciding nofun
    obtain ⟨source, _, hentry⟩ := List.exists_of_findSome?_eq_some hentry
    exact counted_entry? hentry
  have hroute : s.url = route.url ∧ count = 2 := by
    rcases hkey with hkey | hkey
    · have hfound : environment.finder.find counted.supply (searchKey "trip" 2) none
          maxIncludeDepth = .ok (some { route with title := some "Trip" }) :=
        Except.toOption_eq_some_iff.1 (by decide +kernel)
      obtain rfl := Option.some.inj (Except.ok.inj (hfound.symm.trans (hkey ▸ hfind)))
      exact ⟨rfl, (searchKey_inj hkey).2⟩
    · have hfound : environment.finder.find counted.supply (searchKey "route" 2) none
          maxIncludeDepth = .ok (some route) :=
        Except.toOption_eq_some_iff.1 (by decide +kernel)
      obtain rfl := Option.some.inj (Except.ok.inj (hfound.symm.trans (hkey ▸ hfind)))
      exact ⟨rfl, (searchKey_inj hkey).2⟩
  obtain rfl := Option.some.inj (hurl.symm.trans hroute.1)
  rw [hroute.2]
  decide +kernel

def trip : String := "trip Köln Süd, a<b, 50%"

def tripUrl : String := "https://route.example/de/K%C3%B6ln%20S%C3%BCd/a%3Cb%2C50%25"

/-- Three arguments for two slots, with a blank, a bracket and a percent sign. -/
theorem counted_trip :
    environment.defaultKeyword = none ∧
    (environment.adjusted (Query.parse trip)).finder.ArityConsistent counted ∧
    environment.process counted.supply clock trip =
      .ok (.success tripUrl { route with title := some "Trip" }) ∧
    ∃ template texts, route.url = some template ∧
      (environment.setting clock).FilledWith template texts tripUrl ∧
      List.intercalate (Percent.bytes [',']) (texts.map Percent.decode) =
        Percent.bytes "Köln Süd,a<b,50%".toList := by
  have hprocess : environment.process counted.supply clock trip =
      .ok (.success tripUrl { route with title := some "Trip" }) :=
    Except.toOption_eq_some_iff.1 (by decide +kernel)
  have hparse : Query.parse trip =
      ⟨"trip", ["Köln Süd", "a<b", "50%"], [], none, none⟩ := by decide +kernel
  have hadjusted : environment.adjusted (Query.parse trip) = environment := by
    rw [hparse]
    rfl
  have hconsistent : (environment.adjusted (Query.parse trip)).finder.ArityConsistent counted :=
    hadjusted ▸ counted_arityConsistent
  obtain ⟨template, texts, hurl, hfilled, hdecoded⟩ :=
    environment.process_keeps_arguments counted clock trip tripUrl _ rfl hconsistent hprocess
  rw [hadjusted] at hfilled
  rw [hparse] at hdecoded
  exact ⟨rfl, hconsistent, hprocess, template, texts, hurl, hfilled, hdecoded⟩

end Sample

end Shortcuts
