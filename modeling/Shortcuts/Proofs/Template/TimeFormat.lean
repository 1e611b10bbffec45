import Shortcuts.Proofs.Template.Legend
import Shortcuts.Sample
import Shortcuts.Text.Digits

/-!
Times in a format. The parts of a format are runs of one letter each, and their values are numbers
with zeros in front. One scan from left to right gives what the replacements of the parts give, in
whatever order they are made.
-/
namespace Shortcuts.Template

/-! ## The values of the parts -/

/-- The sign and the decimal digits of a number, with no more zeros between them than fill the
text up to a width. -/
structure ZeroPadded (width : Nat) (n : Int) (text : List Char) : Prop where
  reads : ∃ digits, text = (if n < 0 then ['-'] else []) ++ digits ∧
    (∀ c ∈ digits, c.isDigit = true) ∧ Text.decimal digits = n.natAbs
  length_eq : text.length = max width (toString n).length

theorem isDigit_of_mem_padded {width n : Nat} {c : Char}
    (h : c ∈ padded width (Nat.toDigits 10 n)) : c.isDigit = true := by
  rcases List.mem_append.1 h with hzero | hdigit
  · rw [(List.mem_replicate.1 hzero).2]
    rfl
  · exact Nat.isDigit_of_mem_toDigits (by omega) (by omega) hdigit

theorem decimal_padded (width n : Nat) : Text.decimal (padded width (Nat.toDigits 10 n)) = n := by
  rw [padded]
  generalize width - (Nat.toDigits 10 n).length = zeros
  induction zeros with
  | zero => exact Text.decimal_toDigits n
  | succ zeros ih => exact ih

theorem length_padded (width : Nat) (digits : List Char) :
    (padded width digits).length = max width digits.length :=
  List.length_leftpad

theorem length_toString (n : Nat) : (toString (n : Int)).length = (Nat.toDigits 10 n).length := by
  have hcast : toString (n : Int) = toString n := rfl
  rw [hcast, Nat.toString_eq_ofList_toDigits, String.length_ofList]

theorem length_toString_neg {n : Int} (h : n < 0) :
    (toString n).length = (Nat.toDigits 10 n.natAbs).length + 1 := by
  obtain ⟨m, rfl⟩ := Int.eq_negSucc_of_lt_zero h
  have hsign : toString (Int.negSucc m) = "-" ++ toString (m + 1) := rfl
  calc (toString (Int.negSucc m)).length
      = 1 + (toString (m + 1)).length := by
        rw [hsign, String.length_append]
        rfl
    _ = 1 + (Nat.toDigits 10 (m + 1)).length := by
        rw [Nat.toString_eq_ofList_toDigits, String.length_ofList]
    _ = (Nat.toDigits 10 (m + 1)).length + 1 := Nat.add_comm ..

theorem zeroPadded_twoDigits (n : Nat) : ZeroPadded 2 n (twoDigits n) where
  reads := ⟨twoDigits n, by simp, fun c hc => isDigit_of_mem_padded hc, decimal_padded 2 n⟩
  length_eq := by rw [twoDigits, length_padded, length_toString]

theorem zeroPadded_yearText (year : Int) : ZeroPadded 4 year (yearText year) := by
  by_cases hyear : year < 0
  · have htext : yearText year = '-' :: padded 3 (Nat.toDigits 10 year.natAbs) := by
      rw [yearText, if_pos hyear]
    refine ⟨⟨padded 3 (Nat.toDigits 10 year.natAbs), ?_, fun c hc => isDigit_of_mem_padded hc,
      decimal_padded 3 _⟩, ?_⟩
    · rw [htext, if_pos hyear]
      rfl
    · rw [htext, List.length_cons, length_padded, length_toString_neg hyear]
      omega
  · have htext : yearText year = padded 4 (Nat.toDigits 10 year.natAbs) := by
      rw [yearText, if_neg hyear]
    refine ⟨⟨padded 4 (Nat.toDigits 10 year.natAbs), ?_, fun c hc => isDigit_of_mem_padded hc,
      decimal_padded 4 _⟩, ?_⟩
    · rw [htext, if_neg hyear]
      rfl
    · rw [htext, length_padded, ← length_toString, Int.natAbs_of_nonneg (by omega)]

theorem ZeroPadded.ne_nil {width : Nat} {n : Int} {text : List Char}
    (h : ZeroPadded width n text) (hwidth : 0 < width) : text ≠ [] := by
  rintro rfl
  have hlength := h.length_eq
  rw [List.length_nil] at hlength
  omega

theorem ZeroPadded.of_mem {width : Nat} {n : Int} {text : List Char} {c : Char}
    (h : ZeroPadded width n text) (hc : c ∈ text) : c = '-' ∨ c.isDigit = true := by
  obtain ⟨digits, rfl, hdigits, _⟩ := h.reads
  rcases List.mem_append.1 hc with hsign | hdigit
  · split at hsign
    · exact .inl (List.mem_singleton.1 hsign)
    · cases hsign
  · exact .inr (hdigits c hdigit)

/-! ## One scan -/

namespace Clock

/-- The parts of a format from left to right, each as its value, and the other characters as they
are. -/
def scan (clock : Clock) : List Char → List Char
  | 'Y' :: 'Y' :: 'Y' :: 'Y' :: rest => yearText clock.year ++ clock.scan rest
  | 'M' :: 'M' :: rest => twoDigits clock.month ++ clock.scan rest
  | 'D' :: 'D' :: rest => twoDigits clock.day ++ clock.scan rest
  | 'H' :: 'H' :: rest => twoDigits clock.hour ++ clock.scan rest
  | 'm' :: 'm' :: rest => twoDigits clock.minute ++ clock.scan rest
  | c :: rest => c :: clock.scan rest
  | [] => []

/-- The parts of a format. -/
def words : List (List Char) :=
  [['Y', 'Y', 'Y', 'Y'], ['M', 'M'], ['D', 'D'], ['H', 'H'], ['m', 'm']]

theorem words_runs : ∀ word ∈ words, ∃ letter n, word = List.replicate (n + 1) letter := by
  simp only [words, List.forall_mem_cons]
  exact ⟨⟨'Y', 3, rfl⟩, ⟨'M', 1, rfl⟩, ⟨'D', 1, rfl⟩, ⟨'H', 1, rfl⟩, ⟨'m', 1, rfl⟩,
    List.forall_mem_nil _⟩

theorem words_apart : words.Pairwise List.Disjoint := by
  simp [words]

theorem words_letters : ∀ word ∈ words, ∀ c ∈ word, ¬ (c = '-' ∨ c.isDigit = true) := by
  simp [words, Char.isDigit]

variable (clock : Clock)

theorem map_fst_parts : clock.parts.map Prod.fst = words := rfl

theorem mem_words {part : List Char × List Char} (h : part ∈ clock.parts) : part.1 ∈ words := by
  rw [← map_fst_parts clock]
  exact List.mem_map.2 ⟨part, h, rfl⟩

theorem exists_zeroPadded {part : List Char × List Char} (h : part ∈ clock.parts) :
    ∃ n, ZeroPadded part.1.length n part.2 := by
  simp only [parts, List.mem_cons, List.not_mem_nil, or_false] at h
  rcases h with rfl | rfl | rfl | rfl | rfl
  · exact ⟨_, zeroPadded_yearText _⟩
  all_goals exact ⟨_, zeroPadded_twoDigits _⟩

theorem legend : Legend clock.parts := by
  have hruns : ∀ part ∈ clock.parts, ∃ letter n, part.1 = List.replicate (n + 1) letter :=
    fun part hpart => words_runs part.1 (clock.mem_words hpart)
  refine ⟨hruns, ?_, fun part hpart other hother c hletter hvalue => ?_, fun part hpart => ?_⟩
  · rw [← List.pairwise_map (f := Prod.fst), map_fst_parts]
    exact words_apart
  · obtain ⟨n, hpadded⟩ := clock.exists_zeroPadded hother
    exact words_letters part.1 (clock.mem_words hpart) c hletter (hpadded.of_mem hvalue)
  · obtain ⟨n, hpadded⟩ := clock.exists_zeroPadded hpart
    obtain ⟨letter, m, hword⟩ := hruns part hpart
    exact hpadded.ne_nil (by rw [hword, List.length_replicate]; omega)

variable {clock} {order : List (List Char × List Char)}

/-- Replacements in any order pass over a format as the scan does. -/
theorem putIn_eq_scan (h : order.Perm clock.parts) (format : List Char) :
    putIn order format = clock.scan format := by
  have hlegend := clock.legend.perm h
  have hvalue : ∀ part ∈ clock.parts, ∀ rest,
      putIn order (part.1 ++ rest) = part.2 ++ putIn order rest :=
    fun part hpart rest => hlegend.putIn_word_append (h.symm.subset hpart) rest
  simp only [parts, List.forall_mem_cons] at hvalue
  obtain ⟨hyear, hmonth, hday, hhour, hminute, _⟩ := hvalue
  fun_induction scan clock format with
  | case1 rest ih => exact ih ▸ hyear rest
  | case2 rest ih => exact ih ▸ hmonth rest
  | case3 rest ih => exact ih ▸ hday rest
  | case4 rest ih => exact ih ▸ hhour rest
  | case5 rest ih => exact ih ▸ hminute rest
  | case6 c rest nYear nMonth nDay nHour nMinute ih =>
    rw [← ih]
    have hnone : ∀ word ∈ words, ¬ word <+: c :: rest := by
      simp only [words, List.forall_mem_cons]
      refine ⟨?_, ?_, ?_, ?_, ?_, List.forall_mem_nil _⟩
      all_goals
        rintro ⟨behind, hbehind⟩
        obtain ⟨hc, hrest⟩ := List.cons.inj hbehind
      · exact nYear behind hc.symm hrest.symm
      · exact nMonth behind hc.symm hrest.symm
      · exact nDay behind hc.symm hrest.symm
      · exact nHour behind hc.symm hrest.symm
      · exact nMinute behind hc.symm hrest.symm
    exact hlegend.putIn_cons_of_forall fun part hpart =>
      hnone part.1 (clock.mem_words (h.subset hpart))
  | case7 => exact putIn_nil order

/-- In whatever order its parts are replaced, a format gives the text of one scan. Wherever a part
stands meanwhile, be it one of those replaced by then or not, nothing of it has been put in. -/
theorem format_in_any_order (clock : Clock) {order : List (List Char × List Char)}
    (h : order.Perm clock.parts) (format : List Char) :
    clock.format format = clock.scan format ∧
    putIn order format = clock.scan format ∧
    (∀ made, made <+: order →
      let text := putInTraced made (Text.given format)
      Text.plain text = putIn made format ∧ (Text.kept text).Sublist format ∧
        Genuine order text) ∧
    ZeroPadded 4 clock.year (yearText clock.year) ∧
    ∀ n : Nat, ZeroPadded 2 n (twoDigits n) := by
  have hlegend : Legend order := clock.legend.perm h
  refine ⟨putIn_eq_scan (List.Perm.refl clock.parts) format, putIn_eq_scan h format,
    fun made hmade => ?_, zeroPadded_yearText clock.year, zeroPadded_twoDigits⟩
  intro text
  have hplain : Text.plain text = putIn made format := by
    rw [plain_putInTraced, Text.plain_given]
  have hkept : (Text.kept text).Sublist format := by
    have hsublist := kept_putInTraced_sublist made (Text.given format)
    rwa [Text.kept_given] at hsublist
  exact ⟨hplain, hkept, hlegend.genuine hmade.subset format⟩

end Clock

end Shortcuts.Template

namespace Shortcuts.Sample

/-- A moment in the year 44 before the common era. -/
def longPast : Template.Clock := ⟨-43, 3, 15, 9, 5⟩

/-- Runs that are longer than the parts in them, and letters that only a value keeps apart. -/
def unevenRuns : List Char := "YYYYYYY MMMMM MYYYYM DHHDDmmm".toList

theorem unevenRuns_formatted :
    longPast.parts.reverse.Perm longPast.parts ∧
    longPast.format unevenRuns = "-043YYY 0303M M-043M D091505m".toList ∧
    Template.putIn longPast.parts.reverse unevenRuns = longPast.format unevenRuns ∧
    Template.Genuine longPast.parts.reverse
      (Template.putInTraced (longPast.parts.reverse.take 3) (Text.given unevenRuns)) ∧
    Template.ZeroPadded 4 (-43) "-043".toList := by
  have horder := List.reverse_perm longPast.parts
  obtain ⟨hformat, hreplaced, hmade, hyear, _⟩ := longPast.format_in_any_order horder unevenRuns
  have hscan : longPast.scan unevenRuns = "-043YYY 0303M M-043M D091505m".toList := by
    decide +kernel
  have htake := (hmade _ (List.take_prefix 3 longPast.parts.reverse)).2.2
  exact ⟨horder, hformat.trans hscan, hreplaced.trans hformat.symm, htake, hyear⟩

end Shortcuts.Sample
