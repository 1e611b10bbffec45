import Shortcuts.Proofs.Lookup.Store
import Shortcuts.Proofs.Session.Memory

/-!
Documents and what providers keep of them. A provider that has kept the document of a source
answers from it, without a look at the world. One that has not loads the document as it is in the
world, and keeps it for all sources that share it if it could be read; if not, it stays as it is.
-/
namespace Shortcuts

/-- Whether two sources have their entries from one document. All official namespaces are in the
bulk document; embedded entries are in none. -/
def Source.sharesDocument : Source → Source → Bool
  | .official _, .official _ => true
  | .url _ a, .url _ b => a = b
  | .github _ a, .github _ b => a = b
  | .file _ p, .file _ q => Path.same p q
  | _, _ => false

/-- A document as it was read: all official namespaces, or the entries of one namespace. -/
inductive Snapshot where
  | namespaces (all : KeyMap EntryMap)
  | entries (own : EntryMap)

/-- The address of the document of a source that is written with it. -/
def Source.address? : Source → Option String
  | .url _ address => some address
  | _ => none

/-- The address of the document of a source that is a user's. -/
def Source.userAddress? (base : String) : Source → Option String
  | .github _ user => some (githubAddress base user)
  | _ => none

/-- The place of the document of a source that is a file. -/
def Source.fileParts? : Source → Option (List (List Char))
  | .file _ path => some (Path.parts path)
  | _ => none

/-- What a document says about a source that has its entries from it. -/
def Snapshot.about : Snapshot → Source → Option EntryMap
  | .namespaces all, .official name => all.get? name
  | .namespaces _, _ => none
  | .entries own, _ => some own

namespace Provider

/-- What a provider has kept of the document of a source. -/
def kept? : Provider → Source → Option Snapshot
  | .fixed namespaces, .official _ => some (.namespaces namespaces)
  | .bulk _ known, .official _ => known.map .namespaces
  | .url known, .url _ address => (known.lookup address).map .entries
  | .github base known, .github _ user =>
    (known.lookup (githubAddress base user)).map .entries
  | .file known, .file _ path => (known.lookup (Path.parts path)).map .entries
  | _, _ => none

/-- The document of a source as it is in a world. -/
def load (w : World) : Provider → Source → Except Failure Snapshot
  | .fixed namespaces, .official _ => .ok (.namespaces namespaces)
  | .bulk address _, .official _ => (fetch Document.ofBulk w address).value.map .namespaces
  | .inline, .inline _ entries => .ok (.entries entries)
  | .url _, .url _ address => (fetch Document.ofNamespace w address).value.map .entries
  | .github base _, .github _ user =>
    (fetch Document.ofNamespace w (githubAddress base user)).value.map .entries
  | .file _, .file _ path => (readFile w path).value.map .entries
  | _, s => .error (.unsupportedNamespaceSource s.display)

theorem githubAddress_inj {base user user' : String} :
    githubAddress base user = githubAddress base user' ↔ user = user' := by
  constructor
  · intro h
    have hchars := congrArg String.toList h
    simpa [githubAddress, String.toList_inj] using hchars
  · rintro rfl
    rfl

theorem supports_of_sharesDocument {s t : Source} (h : t.sharesDocument s = true)
    (p : Provider) : p.supports t = p.supports s := by
  cases p <;> cases s <;> cases t <;> first | rfl | cases h

theorem kept?_of_sharesDocument {s t : Source} (h : t.sharesDocument s = true) (p : Provider) :
    p.kept? t = p.kept? s := by
  match s, t with
  | .official _, .official _ => cases p <;> rfl
  | .url _ a, .url _ b =>
    obtain rfl : b = a := of_decide_eq_true h
    cases p <;> rfl
  | .github _ a, .github _ b =>
    obtain rfl : b = a := of_decide_eq_true h
    cases p <;> rfl
  | .file _ a, .file _ b =>
    have hparts : Path.parts b = Path.parts a := of_decide_eq_true h
    cases p <;> first | rfl | rw [kept?, kept?, hparts]

theorem load_forget (w : World) (p : Provider) (s : Source) : p.forget.load w s = p.load w s := by
  cases p <;> cases s <;> rfl

theorem load_of_not_supports {w : World} {p : Provider} {s : Source}
    (h : ¬ p.supports s = true) :
    p.load w s = .error (.unsupportedNamespaceSource s.display) := by
  cases p <;> cases s <;> first | exact absurd rfl h | rfl

section Remembering

variable {κ : Type} [BEq κ] {known : List (κ × EntryMap)} {key : κ}
  (fetched : Fetched EntryMap) (remember : List (κ × EntryMap) → Provider)

theorem remembered_of_lookup {entries : EntryMap} (h : known.lookup key = some entries) :
    remembered known key fetched remember = ⟨.ok (some entries), remember known, [], []⟩ := by
  rw [remembered, h]

/-- What is not known is fetched, and known from then on if it could be read. -/
theorem remembered_of_unknown [DecidableEq κ] [LawfulBEq κ] (h : known.lookup key = none) :
    (remembered known key fetched remember).result = fetched.value.map some ∧
    ∃ known', (remembered known key fetched remember).provider = remember known' ∧
      (∀ failure, fetched.value = .error failure → known' = known) ∧
      ∀ other, known'.lookup other =
        (known.lookup other).or (if other = key then fetched.value.toOption else none) := by
  rw [remembered, h]
  cases fetched.value with
  | ok entries =>
    refine ⟨rfl, _, rfl, fun failure hfailure => (by cases hfailure), fun other => ?_⟩
    rw [List.lookup_cons]
    by_cases hkey : other = key
    · rw [hkey, h, if_pos rfl, beq_self_eq_true]
      rfl
    · rw [if_neg hkey, Option.or_none, beq_false_of_ne hkey]
  | error failure =>
    exact ⟨rfl, known, rfl, fun _ _ => rfl, fun other => by simp [Except.toOption]⟩

end Remembering

variable {w : World} {p : Provider} {s : Source}

/-- What is kept is given without a look at the world. -/
theorem get_of_kept? {d : Snapshot} (h : p.kept? s = some d) :
    p.get w s = ⟨.ok (d.about s), p, [], []⟩ := by
  match p, s with
  | .fixed namespaces, .official name =>
    obtain rfl := Option.some.inj h
    rfl
  | .bulk address (some namespaces), .official name =>
    obtain rfl := Option.some.inj h
    rfl
  | .url known, .url name address =>
    obtain ⟨entries, hlookup, rfl⟩ := Option.map_eq_some_iff.1 h
    rw [get]
    exact remembered_of_lookup _ _ hlookup
  | .github base known, .github name user =>
    obtain ⟨entries, hlookup, rfl⟩ := Option.map_eq_some_iff.1 h
    rw [get]
    exact remembered_of_lookup _ _ hlookup
  | .file known, .file name path =>
    obtain ⟨entries, hlookup, rfl⟩ := Option.map_eq_some_iff.1 h
    rw [get]
    exact remembered_of_lookup _ _ hlookup

/-- Loading a document as it comes: the answer says what is in it, a failure leaves the provider
as it is, and otherwise the document is kept for all sources that share it. -/
structure Loads (s : Source) (p : Provider) (loaded : Except Failure Snapshot) (reply : Reply) :
    Prop where
  result : reply.result = loaded.map (·.about s)
  forgotten : reply.provider.forget = p.forget
  untouched : ∀ failure, loaded = .error failure → reply.provider = p
  kept : ∀ t, reply.provider.kept? t =
    (p.kept? t).or (if t.sharesDocument s then loaded.toOption else none)

/-- Documents that are remembered by a key which sources with the same document share. -/
theorem loads_remembered {κ : Type} [BEq κ] [DecidableEq κ] [LawfulBEq κ]
    {known : List (κ × EntryMap)} {key : κ} {fetched : Fetched EntryMap}
    {remember : List (κ × EntryMap) → Provider} (keyOf : Source → Option κ)
    (hkept : ∀ known t, (remember known).kept? t =
      (keyOf t).bind fun k => (known.lookup k).map .entries)
    (hshares : ∀ t, t.sharesDocument s = true ↔ keyOf t = some key)
    (hforget : ∀ known known', (remember known).forget = (remember known').forget)
    (h : known.lookup key = none) :
    Loads s (remember known) (fetched.value.map .entries)
      (remembered known key fetched remember) := by
  obtain ⟨hresult, known', hprovider, hfailure, hlookup⟩ :=
    remembered_of_unknown fetched remember h
  refine ⟨?_, hprovider ▸ hforget _ _, fun failure hloaded => ?_, fun t => ?_⟩
  · rw [hresult]
    cases fetched.value <;> rfl
  · rw [hprovider, hfailure failure (Except.map_eq_error_iff.1 hloaded)]
  · rw [hprovider, hkept, hkept]
    cases hkey : keyOf t with
    | none =>
      have hnot : ¬ t.sharesDocument s = true := fun hs => by simp [(hshares t).1 hs] at hkey
      rw [if_neg hnot]
      rfl
    | some k =>
      rw [Option.bind_some, Option.bind_some, hlookup]
      by_cases hk : k = key
      · rw [if_pos hk, if_pos ((hshares t).2 (hk ▸ hkey))]
        cases known.lookup k <;> cases fetched.value <;> rfl
      · have hnot : ¬ t.sharesDocument s = true := fun hs =>
          hk (Option.some.inj (hkey.symm.trans ((hshares t).1 hs)))
        rw [if_neg hk, if_neg hnot, Option.or_none, Option.or_none]

theorem loads_of_not_supports (h : ¬ p.supports s = true) :
    Loads s p (p.load w s) (p.get w s) := by
  rw [get_of_not_supports h, load_of_not_supports h]
  exact ⟨rfl, rfl, fun _ _ => rfl, fun t => by simp [unsupported, Except.toOption]⟩

theorem loads_bulk (address name : String) :
    Loads (.official name) (.bulk address none) ((bulk address none).load w (.official name))
      ((bulk address none).get w (.official name)) := by
  rw [get, load]
  cases (fetch Document.ofBulk w address).value with
  | ok namespaces =>
    exact ⟨rfl, rfl, fun _ hfailure => (by cases hfailure), fun t => by cases t <;> rfl⟩
  | error failure => exact ⟨rfl, rfl, fun _ _ => rfl, fun t => by cases t <;> rfl⟩

/-- A provider that keeps nothing of a document loads it. -/
theorem loads_of_not_kept? (h : p.kept? s = none) : Loads s p (p.load w s) (p.get w s) := by
  by_cases hsupports : p.supports s = true
  · cases p <;> cases s <;> try exact absurd hsupports Bool.false_ne_true
    case fixed.official => cases h
    case bulk.official address known name =>
      rw [kept?, Option.map_eq_none_iff] at h
      subst h
      exact loads_bulk address name
    case inline.inline => exact ⟨rfl, rfl, fun _ _ => rfl, fun t => by cases t <;> rfl⟩
    case url.url =>
      rw [kept?, Option.map_eq_none_iff] at h
      rw [get, load]
      exact loads_remembered Source.address? (fun _ t => by cases t <;> rfl)
        (fun t => by cases t <;> simp [Source.sharesDocument, Source.address?])
        (fun _ _ => rfl) h
    case github.github base _ _ _ =>
      rw [kept?, Option.map_eq_none_iff] at h
      rw [get, load]
      exact loads_remembered (Source.userAddress? base) (fun _ t => by cases t <;> rfl)
        (fun t => by
          cases t <;> simp [Source.sharesDocument, Source.userAddress?, githubAddress_inj])
        (fun _ _ => rfl) h
    case file.file =>
      rw [kept?, Option.map_eq_none_iff] at h
      rw [get, load]
      exact loads_remembered Source.fileParts? (fun _ t => by cases t <;> rfl)
        (fun t => by cases t <;> simp [Source.sharesDocument, Source.fileParts?, Path.same])
        (fun _ _ => rfl) h
  · exact loads_of_not_supports hsupports

end Provider

end Shortcuts
