import Shortcuts.Files
import Shortcuts.Proofs.Text.Cutting

/-!
Paths and places. The parts of a path are what its text says without empty names and single dots,
and as long as a path can be followed they say where it leads. Whether it can be followed they do
not say: a slash at the end asks for a directory.
-/
namespace Shortcuts

namespace Path

theorem notMem_names {text name : List Char} (h : name ∈ names text) :
    name ≠ ['/'] ∧ name ≠ ['.'] := by
  obtain ⟨hpiece, hkept⟩ := List.mem_filter.1 h
  constructor
  · rintro rfl
    exact Text.notMem_split hpiece (List.mem_singleton.2 rfl)
  · rintro rfl
    cases hkept

theorem root_cases (text : List Char) :
    (root text = [['/']] ∧ text.head? = some '/') ∨
    ((root text = [['.']] ∨ root text = []) ∧ text.head? ≠ some '/') := by
  unfold root
  split
  · exact .inl ⟨rfl, rfl⟩
  · exact .inr ⟨.inl rfl, by decide⟩
  · exact .inr ⟨.inl rfl, by simp⟩
  · rename_i hslash _ _
    refine .inr ⟨.inr rfl, fun h => ?_⟩
    obtain ⟨rest, hrest⟩ := List.head?_eq_some_iff.1 h
    exact hslash rest hrest

/-- A leading slash can be told from the parts. -/
theorem isAbsolute_iff (path : String) : isAbsolute path = true ↔ ['/'] ∈ parts path := by
  have hnames : ['/'] ∉ names path.toList := fun h => (notMem_names h).1 rfl
  rw [isAbsolute, parts, List.mem_append]
  rcases root_cases path.toList with ⟨hroot, hhead⟩ | ⟨hroot | hroot, hhead⟩
  · simp [hroot, hhead]
  · simp [hroot, hhead, hnames]
  · simp [hroot, hhead, hnames]

/-- So can the names, which are neither slashes nor single dots. -/
theorem names_eq_filter_parts (path : String) :
    names path.toList = (parts path).filter fun part => part ≠ ['/'] && part ≠ ['.'] := by
  have hroot : (root path.toList).filter (fun part => part ≠ ['/'] && part ≠ ['.']) = [] := by
    rcases root_cases path.toList with ⟨hroot, _⟩ | ⟨hroot | hroot, _⟩ <;> rw [hroot] <;> rfl
  have hnames : (names path.toList).filter (fun part => part ≠ ['/'] && part ≠ ['.']) =
      names path.toList := by
    rw [List.filter_eq_self]
    intro name hname
    obtain ⟨hslash, hdot⟩ := notMem_names hname
    simp [hslash, hdot]
  rw [parts, List.filter_append, hroot, hnames, List.nil_append]

end Path

namespace Files

/-- Whether a name is one that leads on. -/
def isNamed (name : List Char) : Bool := !name.isEmpty && name ≠ ['.']

theorem isNamed_iff (name : List Char) :
    isNamed name = true ↔ ¬ (name.isEmpty = true ∨ name = ['.']) := by
  simp [isNamed]

def follow (place : Place) (name : List Char) : Place :=
  if name = ['.', '.'] then place.dropLast else place ++ [name]

variable {f : Files}

theorem step_eq_ok {place next : Place} {name : List Char} (h : f.step place name = .ok next) :
    next = if isNamed name then follow place name else place := by
  rw [step] at h
  split at h
  · cases h
  · cases h
  · simp only [Bool.or_eq_true, decide_eq_true_eq] at h
    by_cases hskipped : name.isEmpty = true ∨ name = ['.']
    · rw [if_pos hskipped] at h
      rw [if_neg fun hnamed => (isNamed_iff name).1 hnamed hskipped]
      exact (Except.ok.inj h).symm
    · rw [if_neg hskipped] at h
      rw [if_pos ((isNamed_iff name).2 hskipped), follow]
      split at h
      · rename_i hup
        rw [if_pos hup]
        exact (Except.ok.inj h).symm
      · rename_i hup
        rw [if_neg hup]
        split at h
        · cases h
        · exact (Except.ok.inj h).symm

theorem foldlM_step_eq_ok {names : List (List Char)} {start place : Place}
    (h : names.foldlM f.step start = .ok place) :
    place = (names.filter isNamed).foldl follow start := by
  induction names generalizing start with
  | nil => exact (Except.ok.inj h).symm
  | cons name rest ih =>
    rw [List.foldlM_cons] at h
    cases hstep : f.step start name with
    | error fault =>
      rw [hstep] at h
      cases h
    | ok next =>
      rw [hstep] at h
      rw [ih h, step_eq_ok hstep]
      by_cases hnamed : isNamed name
      · rw [List.filter_cons_of_pos hnamed, if_pos hnamed, List.foldl_cons]
      · rw [List.filter_cons_of_neg hnamed, if_neg hnamed]

theorem place_eq_ok {path : String} {place : Place} (h : f.place path = .ok place) :
    place = (Path.names path.toList).foldl follow
      (if Path.isAbsolute path then [] else f.workingDirectory) := by
  rw [Files.place] at h
  split at h
  · cases h
  · split at h
    · cases h
    · split at h
      · cases h
      · exact foldlM_step_eq_ok h

/-- Where two paths with the same parts can be followed, they lead to the same place. -/
theorem place_eq_of_parts {p q : String} {a b : Place} (h : Path.parts p = Path.parts q)
    (hp : f.place p = .ok a) (hq : f.place q = .ok b) : a = b := by
  have hnames : Path.names p.toList = Path.names q.toList := by
    rw [Path.names_eq_filter_parts, Path.names_eq_filter_parts, h]
  have habsolute : Path.isAbsolute p = Path.isAbsolute q := by
    rw [Bool.eq_iff_iff, Path.isAbsolute_iff, Path.isAbsolute_iff, h]
  rw [place_eq_ok hp, place_eq_ok hq, hnames, habsolute]

theorem readText_eq_ok {path text : String} (h : f.readText path = .ok text) :
    ∃ place executable, f.place path = .ok place ∧
      f.node? place = some (.file (.text text) executable) := by
  rw [readText, find] at h
  cases hplace : f.place path with
  | error fault =>
    rw [hplace] at h
    cases h
  | ok place =>
    rw [hplace] at h
    cases hnode : f.node? place with
    | none =>
      simp only [bind, Except.bind, hnode] at h
      cases h
    | some node =>
      simp only [bind, Except.bind, hnode] at h
      match node with
      | .file (.text value) executable =>
        obtain rfl := Except.ok.inj h
        exact ⟨place, executable, rfl, hnode⟩
      | .file .bytes _ | .file .program _ | .directory => cases h

/-- So they do not read two texts. -/
theorem readText_eq_of_parts {p q text text' : String} (h : Path.parts p = Path.parts q)
    (hp : f.readText p = .ok text) (hq : f.readText q = .ok text') : text = text' := by
  obtain ⟨place, _, hplace, hnode⟩ := readText_eq_ok hp
  obtain ⟨place', _, hplace', hnode'⟩ := readText_eq_ok hq
  obtain rfl := place_eq_of_parts h hplace hplace'
  rw [hnode] at hnode'
  cases hnode'
  rfl

end Files

end Shortcuts
