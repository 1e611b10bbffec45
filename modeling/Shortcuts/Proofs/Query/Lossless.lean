import Shortcuts.Proofs.Query.FirstWord

/-!
Nothing of a query is lost. The names of its namespaces and its keyword, joined with dots, are its
first word again, up to a leading dot that announces no country. Its arguments are the trimmed
pieces between the commas of the rest.
-/
namespace Shortcuts.Query

/-! ## The pieces of the first word -/

theorem countryOf_cases (pieces : List (List Char)) :
    (∃ code rest, pieces = [] :: code :: rest ∧ code.length = 2 ∧
      countryOf pieces = (some code, rest)) ∨
    (∃ rest, pieces = [] :: rest ∧ (∀ code, rest.head? = some code → code.length ≠ 2) ∧
      countryOf pieces = (none, rest)) ∨
    (pieces.head? ≠ some [] ∧ countryOf pieces = (none, pieces)) := by
  match pieces with
  | [] => exact .inr (.inr ⟨nofun, rfl⟩)
  | [[]] => exact .inr (.inl ⟨[], rfl, nofun, rfl⟩)
  | [] :: code :: rest =>
    by_cases hlength : code.length = 2
    · exact .inl ⟨code, rest, rfl, hlength, by rw [countryOf, if_pos hlength]⟩
    · refine .inr (.inl ⟨code :: rest, rfl, ?_, by rw [countryOf, if_neg hlength]⟩)
      rintro _ ⟨⟩
      exact hlength
  | (c :: cs) :: rest => exact .inr (.inr ⟨by simp, rfl⟩)

theorem countryOf_of_head? {pieces : List (List Char)} (h : pieces.head? ≠ some []) :
    countryOf pieces = (none, pieces) := by
  obtain ⟨code, rest, rfl, _⟩ | ⟨rest, rfl, _⟩ | ⟨_, hcountry⟩ := countryOf_cases pieces
  · exact absurd rfl h
  · exact absurd rfl h
  · exact hcountry

theorem countryOf_eq_some_iff (pieces : List (List Char)) (code : List Char) :
    (countryOf pieces).1 = some code ↔
      code.length = 2 ∧ ∃ rest, pieces = [] :: code :: rest := by
  obtain ⟨code', rest, rfl, hlength, hcountry⟩ | ⟨rest, rfl, hlength, hcountry⟩ |
    ⟨hhead, hcountry⟩ := countryOf_cases pieces
  · rw [hcountry]
    constructor
    · rintro ⟨⟩
      exact ⟨hlength, rest, rfl⟩
    · rintro ⟨_, rest', heq⟩
      obtain ⟨rfl, _⟩ := List.cons.inj (List.cons.inj heq).2
      rfl
  · rw [hcountry]
    constructor
    · nofun
    · rintro ⟨htwo, rest', heq⟩
      refine absurd htwo (hlength code ?_)
      rw [(List.cons.inj heq).2, List.head?_cons]
  · rw [hcountry]
    constructor
    · nofun
    · rintro ⟨_, rest', rfl⟩
      exact absurd rfl hhead

/-- A country is what stands between the first two dots of a word that starts with a dot. -/
theorem exists_dropLast_split_iff (word code : List Char) :
    (∃ rest, (Text.split '.' word).dropLast = [] :: code :: rest) ↔
      '.' ∉ code ∧ '.' :: (code ++ ['.']) <+: word := by
  constructor
  · rintro ⟨rest, hpieces⟩
    have hcode : code ∈ Text.split '.' word :=
      (List.dropLast_sublist _).subset (hpieces ▸ List.mem_cons_of_mem _ (List.mem_cons_self ..))
    obtain ⟨front, last, hsplit⟩ := Text.exists_split_concat '.' word
    rw [hsplit, List.dropLast_concat] at hpieces
    have hrest : rest ++ [last] ≠ [] := by simp
    have hword : word = '.' :: (code ++ '.' :: Text.join ['.'] (rest ++ [last])) := by
      calc word
          = Text.join ['.'] ([] :: code :: (rest ++ [last])) := by
            rw [← Text.join_split '.' word, hsplit, hpieces]
            rfl
        _ = '.' :: Text.join ['.'] (code :: (rest ++ [last])) :=
            Text.join_cons ['.'] [] (List.cons_ne_nil code _)
        _ = '.' :: (code ++ '.' :: Text.join ['.'] (rest ++ [last])) := by
            rw [Text.join_cons ['.'] code hrest, List.append_assoc]
            rfl
    exact ⟨Text.notMem_split hcode, Text.join ['.'] (rest ++ [last]), by rw [hword]; simp⟩
  · rintro ⟨hdot, behind, rfl⟩
    obtain ⟨piece, pieces, hsplit⟩ := List.exists_cons_of_ne_nil (Text.split_ne_nil '.' behind)
    refine ⟨(piece :: pieces).dropLast, ?_⟩
    have hword : '.' :: (code ++ ['.']) ++ behind = [] ++ '.' :: (code ++ '.' :: behind) := by simp
    rw [hword, Text.split_append List.not_mem_nil, Text.split_append hdot, hsplit,
      List.dropLast_cons_cons, List.dropLast_cons_cons]

/-- The pieces in front of the keyword as the query names them, the dot of a country included. -/
def namesOf (pieces : List (List Char)) : List (List Char) :=
  ((countryOf pieces).1.map countryNamespace).toList ++ (countryOf pieces).2

/-- Joined again, names and keyword lack at most a leading dot. -/
theorem join_namesOf (front : List (List Char)) (last : List Char) :
    Text.join ['.'] (front ++ [last]) =
      (if front.head? = some [] ∧ (countryOf front).1 = none then ['.'] else []) ++
        Text.join ['.'] (namesOf front ++ [last]) := by
  obtain ⟨code, rest, rfl, _, hcountry⟩ | ⟨rest, rfl, _, hcountry⟩ | ⟨hhead, hcountry⟩ :=
    countryOf_cases front
  · rw [namesOf, hcountry, if_neg (by simp)]
    have hne : rest ++ [last] ≠ [] := by simp
    simp only [Option.map_some, Option.toList_some, List.cons_append, List.nil_append]
    rw [Text.join_cons _ _ (List.cons_ne_nil _ _), Text.join_cons _ _ hne, Text.join_cons _ _ hne]
    rfl
  · rw [namesOf, hcountry, if_pos ⟨rfl, rfl⟩]
    have hne : rest ++ [last] ≠ [] := by simp
    rw [List.cons_append, Text.join_cons _ _ hne]
    rfl
  · rw [namesOf, hcountry, if_neg (fun h => hhead h.1)]
    rfl

theorem languageOf_eq (front : List (List Char)) :
    languageOf (countryOf front).2 =
      ((namesOf front).drop (if (countryOf front).1.isSome then 1 else 0)).find?
        (·.length = 2) := by
  rw [namesOf, languageOf]
  cases (countryOf front).1 <;> rfl

theorem argumentsOf_eq_nil_iff (text : List Char) : argumentsOf text = [] ↔ text = [] := by
  cases text with
  | nil => exact iff_of_true rfl rfl
  | cons c rest =>
    refine iff_of_false (fun h => ?_) (List.cons_ne_nil c rest)
    exact Text.split_ne_nil ',' (c :: rest) (List.map_eq_nil_iff.1 h)

theorem argumentsOf_of_ne_nil {text : List Char} (h : text ≠ []) :
    argumentsOf text = (Text.split ',' text).map Text.trim :=
  if_neg (by simpa using h)

/-! ## Whole queries -/

theorem parse_eq {text : String} {word rest last : List Char} {front : List (List Char)}
    (hcut : cut text.toList = (word, rest)) (hsplit : Text.split '.' word = front ++ [last]) :
    parse text =
      { keyword := String.ofList last
        arguments := (argumentsOf rest).map String.ofList
        namespaces := (namesOf front).map String.ofList
        language := (languageOf (countryOf front).2).map String.ofList
        country := (countryOf front).1.map String.ofList } := by
  rw [parse, hcut]
  dsimp only
  rw [hsplit, List.dropLast_concat, List.getLastD_concat]
  rfl

/-- The parts of a query account for every character of its first word and of the rest. -/
structure AccountsFor (q : Query) (word rest : List Char) : Prop where
  dot_notMem : '.' ∉ q.keyword.toList
  space_notMem : ' ' ∉ q.keyword.toList
  country_eq_some_iff : ∀ code, q.country = some code ↔
    code.length = 2 ∧ '.' ∉ code.toList ∧ '.' :: (code.toList ++ ['.']) <+: word
  country_first : ∀ code, q.country = some code → q.namespaces.head? = some ("." ++ code)
  word_eq : word = (if word.head? = some '.' ∧ q.country = none then ['.'] else []) ++
    Text.join ['.'] ((q.namespaces ++ [q.keyword]).map String.toList)
  language_eq : q.language =
    (q.namespaces.drop (if q.country.isSome then 1 else 0)).find? (·.length = 2)
  arguments_eq_nil_iff : q.arguments = [] ↔ rest = []
  arguments_eq : rest ≠ [] → ∃ pieces, pieces ≠ [] ∧ (∀ piece ∈ pieces, ',' ∉ piece) ∧
    Text.join [','] pieces = rest ∧
    q.arguments = pieces.map fun piece => String.ofList (Text.trim piece)

theorem map_ofList_eq_some_iff (chars : Option (List Char)) (s : String) :
    chars.map String.ofList = some s ↔ chars = some s.toList := by
  rw [Option.map_eq_some_iff]
  constructor
  · rintro ⟨_, rfl, rfl⟩
    rw [String.toList_ofList]
  · intro h
    exact ⟨s.toList, h, String.ofList_toList⟩

theorem accountsFor_of_cut {text : String} {word rest : List Char}
    (hcut : cut text.toList = (word, rest)) (hspace : ' ' ∉ word) :
    (parse text).AccountsFor word rest := by
  obtain ⟨front, last, hsplit⟩ := Text.exists_split_concat '.' word
  have hlast : last ∈ Text.split '.' word := hsplit ▸ List.mem_concat_self
  rw [parse_eq hcut hsplit]
  constructor
  case dot_notMem =>
    rw [String.toList_ofList]
    exact Text.notMem_split hlast
  case space_notMem =>
    rw [String.toList_ofList]
    exact fun hmem => hspace (Text.subset_of_mem_split hlast hmem)
  case country_eq_some_iff =>
    intro code
    have hpieces := exists_dropLast_split_iff word code.toList
    rw [hsplit, List.dropLast_concat] at hpieces
    rw [map_ofList_eq_some_iff, countryOf_eq_some_iff, hpieces, String.length_toList]
  case country_first =>
    intro code hcode
    rw [map_ofList_eq_some_iff] at hcode
    have hname : String.ofList ('.' :: code.toList) = "." ++ code := by
      rw [← String.toList_inj]
      simp
    rw [namesOf, hcode, ← hname]
    rfl
  case word_eq =>
    have hfront : front.head? = some [] ↔ word.head? = some '.' := by
      rw [← Text.head?_dropLast_split, hsplit, List.dropLast_concat]
    have hnames : (((namesOf front).map String.ofList ++ [String.ofList last]).map
        String.toList) = namesOf front ++ [last] := by simp [Function.comp_def]
    have hword := join_namesOf front last
    rw [← hsplit, Text.join_split] at hword
    simp only [hnames, ← hfront, Option.map_eq_none_iff]
    exact hword
  case language_eq =>
    have hlength : ((fun name : String => decide (name.length = 2)) ∘ String.ofList) =
        fun name => decide (name.length = 2) := by
      funext name
      simp
    rw [languageOf_eq, Option.isSome_map, ← List.map_drop, List.find?_map, hlength]
  case arguments_eq_nil_iff =>
    rw [List.map_eq_nil_iff, argumentsOf_eq_nil_iff]
  case arguments_eq =>
    intro hrest
    refine ⟨Text.split ',' rest, Text.split_ne_nil ',' rest, fun _ => Text.notMem_split,
      Text.join_split ',' rest, ?_⟩
    rw [argumentsOf_of_ne_nil hrest, List.map_map]
    rfl

/-- Every query is accounted for: its first word, which ends at the first space, by the country,
the namespaces and the keyword, and the rest by the arguments. -/
theorem parse_accountsFor (text : String) :
    ∃ word behind, Text.trim text.toList = word ++ behind ∧ ' ' ∉ word ∧
      (∀ c, behind.head? = some c → c = ' ') ∧
      (parse text).AccountsFor word (Text.trim behind) := by
  obtain ⟨behind, htrim, hspace, hbehind, hrest⟩ := cut_spec text.toList
  have haccounts : (parse text).AccountsFor (cut text.toList).1 (cut text.toList).2 :=
    accountsFor_of_cut rfl hspace
  rw [hrest] at haccounts
  exact ⟨_, behind, htrim, hspace, hbehind, haccounts⟩

example : parse "\t..w  a ,," = ⟨"w", ["a", "", ""], [""], none, none⟩ := by decide +kernel

end Shortcuts.Query
