import Shortcuts.Namespace.Provider
import Shortcuts.Proofs.Files.Place

/-!
What providers remember. As long as the world stays as it is, what a provider remembers is what it
would read again, with one reservation: a file is remembered for all paths with the same parts,
and not each of them has to be readable. Where all of them are, a provider answers as if it
remembered nothing.
-/
namespace Shortcuts

/-- The file of a source, if it has one, is at one of these paths. -/
def Source.Within (paths : String → Prop) : Source → Prop
  | .file _ path => paths path
  | _ => True

namespace Provider

/-- The provider that remembers nothing yet. -/
def forget : Provider → Provider
  | .bulk address _ => .bulk address none
  | .url _ => .url []
  | .github base _ => .github base []
  | .file _ => .file []
  | p => p

/-- Everything in a memory has a reason to be there. -/
def Justified {κ : Type} [BEq κ] (reason : κ → EntryMap → Prop) (known : List (κ × EntryMap)) :
    Prop :=
  ∀ key entries, known.lookup key = some entries → reason key entries

/-- The entries come from a document in the world, and those of a file from one of these paths. -/
def Recalls (w : World) (paths : String → Prop) : Provider → Prop
  | .bulk address (some namespaces) =>
    (fetch Document.ofBulk w address).value = .ok namespaces
  | .url known | .github _ known =>
    Justified (fun address entries =>
      (fetch Document.ofNamespace w address).value = .ok entries) known
  | .file known =>
    Justified (fun parts entries =>
      ∃ path, paths path ∧ Path.parts path = parts ∧ (readFile w path).value = .ok entries) known
  | _ => True

theorem justified_nil {κ : Type} [BEq κ] {reason : κ → EntryMap → Prop} :
    Justified reason ([] : List (κ × EntryMap)) := by
  intro key entries h
  cases h

section Remembering

variable {κ : Type} [BEq κ] [LawfulBEq κ] {reason : κ → EntryMap → Prop}
  {known : List (κ × EntryMap)}

theorem Justified.cons {key : κ} {entries : EntryMap} (h : Justified reason known)
    (hkey : reason key entries) : Justified reason ((key, entries) :: known) := by
  intro key' entries' hlookup
  rw [List.lookup_cons] at hlookup
  split at hlookup
  · rename_i heq
    obtain rfl := Option.some.inj hlookup
    rw [LawfulBEq.eq_of_beq heq]
    exact hkey
  · exact h key' entries' hlookup

/-- If a reason for the key is what fetching gives, a memory answers like an empty one. -/
theorem Justified.remembered (h : Justified reason known) (key : κ) {fetched : Fetched EntryMap}
    (hreason : ∀ entries, reason key entries ↔ fetched.value = .ok entries)
    (remember : List (κ × EntryMap) → Provider) :
    (Provider.remembered known key fetched remember).result =
      (Provider.remembered [] key fetched remember).result ∧
    ∃ known', (Provider.remembered known key fetched remember).provider = remember known' ∧
      Justified reason known' := by
  rw [Provider.remembered, Provider.remembered, List.lookup_nil]
  cases hlookup : known.lookup key with
  | some entries =>
    have hvalue := (hreason entries).1 (h key entries hlookup)
    rw [hvalue]
    exact ⟨rfl, known, rfl, h⟩
  | none =>
    cases hvalue : fetched.value with
    | ok entries => exact ⟨rfl, _, rfl, h.cons ((hreason entries).2 hvalue)⟩
    | error failure => exact ⟨rfl, known, rfl, h⟩

end Remembering

/-! ## Files -/

/-- What a document says does not depend on the name it is read under. -/
theorem value_ofNamespace (source source' content : String) :
    (Document.ofNamespace source content).toOption.map Document.Reading.value =
      (Document.ofNamespace source' content).toOption.map Document.Reading.value := by
  rw [Document.ofNamespace, Document.ofNamespace]
  split
  · rfl
  · split <;> rfl

variable {w : World}

theorem readFile_eq_ok {path : String} {entries : EntryMap}
    (h : (readFile w path).value = .ok entries) :
    ∃ content, w.files.readText path = .ok content ∧
      (Document.ofNamespace path content).toOption.map Document.Reading.value = some entries := by
  rw [readFile] at h
  cases hread : w.files.readText path with
  | error fault =>
    rw [hread] at h
    cases h
  | ok content =>
    rw [hread] at h
    refine ⟨content, rfl, ?_⟩
    cases hnamespace : Document.ofNamespace path content with
    | error failure =>
      simp only [hnamespace] at h
      cases h
    | ok reading =>
      simp only [hnamespace] at h
      obtain rfl := Except.ok.inj h
      rfl

theorem readFile_eq_of_parts {p q : String} {entries entries' : EntryMap}
    (h : Path.parts p = Path.parts q) (hp : (readFile w p).value = .ok entries)
    (hq : (readFile w q).value = .ok entries') : entries = entries' := by
  obtain ⟨content, hread, hentries⟩ := readFile_eq_ok hp
  obtain ⟨content', hread', hentries'⟩ := readFile_eq_ok hq
  obtain rfl := Files.readText_eq_of_parts h hread hread'
  rw [value_ofNamespace p q content, hentries'] at hentries
  exact (Option.some.inj hentries).symm

def Readable (w : World) (path : String) : Prop :=
  ∃ entries, (readFile w path).value = .ok entries

theorem readable_iff (path : String) :
    Readable w path ↔ (readFile w path).value.isOk = true := by
  rw [Readable]
  cases (readFile w path).value <;> simp [Except.isOk, Except.toBool]

instance (path : String) : Decidable (Readable w path) :=
  decidable_of_iff _ (readable_iff path).symm

/-- Of paths that are the same, all or none can be read. -/
def ReadableAlike (w : World) (paths : String → Prop) : Prop :=
  ∀ p q, paths p → paths q → Path.same p q = true → Readable w p → Readable w q

variable {paths : String → Prop}

/-- What any of the same paths is read to is what each of them is. -/
theorem ReadableAlike.reason_iff {path : String} (h : ReadableAlike w paths) (hpath : paths path)
    (entries : EntryMap) :
    (∃ p, paths p ∧ Path.parts p = Path.parts path ∧ (readFile w p).value = .ok entries) ↔
      (readFile w path).value = .ok entries := by
  constructor
  · rintro ⟨p, hp, hparts, hread⟩
    obtain ⟨entries', hread'⟩ := h p path hp hpath (decide_eq_true hparts) ⟨entries, hread⟩
    rw [hread', readFile_eq_of_parts hparts hread hread']
  · intro hread
    exact ⟨path, hpath, rfl, hread⟩

/-! ## Providers -/

theorem recalls_forget (p : Provider) : p.forget.Recalls w paths := by
  cases p with
  | url known => exact justified_nil
  | github base known => exact justified_nil
  | file known => exact justified_nil
  | fixed _ | bulk _ _ | inline => exact trivial

theorem supports_forget (p : Provider) (s : Source) : p.forget.supports s = p.supports s := by
  cases p <;> cases s <;> rfl

theorem get_of_not_supports {p : Provider} {s : Source} (h : ¬ p.supports s = true) :
    p.get w s = p.unsupported s := by
  unfold get
  split <;> first | rfl | exact absurd rfl h

/-- A provider answers as it would without its memory, and remembers nothing wrong. -/
theorem Recalls.get {p : Provider} {s : Source} (h : p.Recalls w paths)
    (halike : ReadableAlike w paths) (hs : s.Within paths) :
    (p.get w s).result = (p.forget.get w s).result ∧
    (p.get w s).provider.forget = p.forget ∧ (p.get w s).provider.Recalls w paths := by
  by_cases hsupports : p.supports s = true
  · match p, s, hsupports with
    | .fixed namespaces, .official name, _ => exact ⟨rfl, rfl, trivial⟩
    | .inline, .inline name entries, _ => exact ⟨rfl, rfl, trivial⟩
    | .bulk address (some namespaces), .official name, _ =>
      have hfetch : (fetch Document.ofBulk w address).value = .ok namespaces := h
      refine ⟨?_, rfl, h⟩
      rw [forget, Provider.get, Provider.get, hfetch]
    | .bulk address none, .official name, _ =>
      refine ⟨rfl, ?_⟩
      -- What is remembered now is what has just been fetched; a failure is not remembered.
      rw [Provider.get]
      cases hfetch : (fetch Document.ofBulk w address).value with
      | ok namespaces => exact ⟨rfl, hfetch⟩
      | error failure => exact ⟨rfl, trivial⟩
    | .url known, .url name address, _ =>
      obtain ⟨hresult, known', hknown', hjustified⟩ :=
        Justified.remembered h address (fun _ => Iff.rfl) Provider.url
      refine ⟨hresult, ?_⟩
      rw [Provider.get, hknown']
      exact ⟨rfl, hjustified⟩
    | .github base known, .github name user, _ =>
      obtain ⟨hresult, known', hknown', hjustified⟩ :=
        Justified.remembered h (githubAddress base user) (fun _ => Iff.rfl) (Provider.github base)
      refine ⟨hresult, ?_⟩
      rw [Provider.get, hknown']
      exact ⟨rfl, hjustified⟩
    | .file known, .file name path, _ =>
      obtain ⟨hresult, known', hknown', hjustified⟩ :=
        Justified.remembered h (Path.parts path) (halike.reason_iff hs) Provider.file
      refine ⟨hresult, ?_⟩
      rw [Provider.get, hknown']
      exact ⟨rfl, hjustified⟩
  · rw [get_of_not_supports hsupports, get_of_not_supports (by rwa [supports_forget])]
    exact ⟨rfl, rfl, h⟩

end Provider

end Shortcuts
