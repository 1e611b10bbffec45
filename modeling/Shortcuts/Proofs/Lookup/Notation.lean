import Shortcuts.Proofs.Lookup.Alike
import Shortcuts.Proofs.Template.Notation
import Shortcuts.Sample

/-!
Entries in short notation. A template in short notation is an abbreviation of the definition that
has nothing but its url written out: in a store one can stand for the other, whatever includes it
or searches for it.
-/
namespace Shortcuts

open Template

namespace Template.Layout

/-- The layout as a template in short notation. -/
def shortEntry (l : Layout) : Entry := .short (String.ofList (l.textIn short))

def shortcut (l : Layout) : Shortcut := .ofUrl (String.ofList (l.textIn angle))

/-- The layout as a url in full notation. -/
def fullEntry (l : Layout) : Entry := .full ⟨none, l.shortcut⟩

variable {l : Layout}

theorem Clear.own_shortEntry (h : l.Clear short) : l.shortEntry.own = l.shortcut := by
  rw [shortEntry, Entry.own, h.ofShort_textIn]
  rfl

theorem Clear.alike (h : l.Clear short) : l.shortEntry.Alike l.fullEntry := by
  intro language find namespaces
  have hshort : l.shortEntry.include? = none := rfl
  have hfull : l.fullEntry.include? = none := rfl
  rw [Lookup.resolveEntry_of_plain language find namespaces hshort,
    Lookup.resolveEntry_of_plain language find namespaces hfull, h.own_shortEntry]
  rfl

/-- In either notation the entry is found as the url written out. -/
theorem Clear.find_of_deciding (h : l.Clear short) {store : Store} {namespaces : List Source}
    {key : String}
    (hdeciding : store.deciding? namespaces key = some l.shortEntry ∨
      store.deciding? namespaces key = some l.fullEntry)
    (language : String) (depth : Nat) :
    Lookup.find store.supply language (depth + 1) namespaces key = .ok (some l.shortcut) := by
  rw [Lookup.find_succ]
  rcases hdeciding with hshort | hfull
  · rw [hshort, ← h.own_shortEntry]
    exact Lookup.resolveEntry_of_plain language _ namespaces rfl
  · rw [hfull]
    exact Lookup.resolveEntry_of_plain language _ namespaces rfl

end Template.Layout

/-- The second entry is the first, or what it abbreviates. -/
inductive Entry.WritesOut : Entry → Entry → Prop
  | same (e : Entry) : WritesOut e e
  | layout {l : Layout} (h : l.Clear Template.short) : WritesOut l.shortEntry l.fullEntry

/-- Some entries of the first store are written out in the second. -/
def Store.WritesOut (store store' : Store) : Prop :=
  ∀ s key, Option.Rel Entry.WritesOut (store.entry? s key) (store'.entry? s key)

theorem Entry.WritesOut.alike {e e' : Entry} (h : e.WritesOut e') : e.Alike e' := by
  cases h with
  | same => exact .refl e
  | layout hclear => exact hclear.alike

theorem Store.WritesOut.alike {store store' : Store} (h : store.WritesOut store') :
    store.Alike store' := by
  intro s key
  rcases Option.rel_cases (h s key) with ⟨hnone, hnone'⟩ | ⟨e, e', he, he', hwrites⟩
  · rw [hnone, hnone']
    exact .none
  · rw [he, he']
    exact .some hwrites.alike

/-- A layout whose texts and names leave the short notation clear is written out slot by slot, and
its names are the names of the arguments if they leave the full notation clear as well. As an
entry it is found as its url, and in whatever places entries are written out, nothing that is
looked up, included or searched for comes out differently. -/
theorem Finder.short_for_full (l : Layout) (hl : l.Clear short) (store store' : Store)
    (hstore : store.WritesOut store') (f : Finder) :
    ofShort (String.ofList (l.textIn short)) = String.ofList (l.textIn angle) ∧
    (l.Clear angle → (∀ name ∈ l.names, name.head? ≠ some '$') →
      argumentNames (l.textIn angle) = l.names) ∧
    (∀ key override, (store.deciding? (override.getD f.namespaces) key = some l.shortEntry ∨
        store.deciding? (override.getD f.namespaces) key = some l.fullEntry) →
      ∀ depth, f.find store.supply key override (depth + 1) =
        .ok (some (.ofUrl (String.ofList (l.textIn angle))))) ∧
    (∀ key override depth, f.find store'.supply key override depth =
      f.find store.supply key override depth) ∧
    (∀ keyword count, f.findKeyword store'.supply keyword count =
      f.findKeyword store.supply keyword count) ∧
    (∀ override i depth,
      f.included (fun key override => f.find store'.supply key override depth) override i =
        f.included (fun key override => f.find store.supply key override depth) override i) ∧
    ∀ query results, f.search store'.supply query = .ok results ↔
      f.search store.supply query = .ok results := by
  have halike := hstore.alike
  refine ⟨hl.ofShort_textIn, fun hangle hnames => ?_, fun key override hdeciding depth => ?_,
    fun key override depth => ?_, halike.findKeyword f, fun override i depth => ?_,
    fun query results => halike.search f query⟩
  · apply hangle.argumentNames_textIn
    intro name hname
    exact decide_eq_false (hnames name hname)
  · rw [find_eq]
    exact hl.find_of_deciding hdeciding f.language depth
  · rw [find_eq, find_eq, halike.find]
  · rw [f.included_eq (f.find_eq store'.supply depth), f.included_eq (f.find_eq store.supply depth),
      halike.find]

namespace Sample

/-- Names that hold parts of both notations, side by side and between parts of the short one. -/
def tangled : Layout :=
  ⟨"https://x.example/%\x7d".toList,
    [("a\x7b%b".toList, []), ("<c".toList, "%\x7d>".toList), ("%".toList, "\x7d".toList)]⟩

def terse : Store
  | .official "o" => some (.ofList [
    ("a 3", including (.key "b 3") (titled "A")), ("b 3", tangled.shortEntry)])
  | _ => none

/-- The same entries with the second one written out. -/
def wordy : Store := fun s => (terse s).map (Table.map fun e =>
  if e = tangled.shortEntry then tangled.fullEntry else e)

theorem tangled_clear : tangled.Clear short ∧ tangled.Clear angle := by decide +kernel

theorem terse_writesOut : terse.WritesOut wordy := by
  intro s key
  have hentry : wordy.entry? s key = (terse.entry? s key).map fun e =>
      if e = tangled.shortEntry then tangled.fullEntry else e := by
    rw [Store.entry?, Store.entry?, wordy]
    cases terse s with
    | none => rfl
    | some entries => exact entries.get?_map _ key
  rw [hentry]
  cases terse.entry? s key with
  | none => exact .none
  | some e =>
    by_cases he : e = tangled.shortEntry
    · rw [Option.map_some, if_pos he, he]
      exact .some (.layout tangled_clear.1)
    · rw [Option.map_some, if_neg he]
      exact .some (.same e)

def tangledUrl : String := "https://x.example/%\x7d<a\x7b%b><<c>%\x7d><%>\x7d"

/-- The tangled layout is written out, and what includes the entry gives the same for both. -/
theorem terse_found :
    tangled.Clear short ∧ terse.WritesOut wordy ∧
    ofShort (String.ofList (tangled.textIn short)) = tangledUrl ∧
    tangled.Clear angle ∧
    argumentNames (tangled.textIn angle) = ["a\x7b%b".toList, "<c".toList, "%".toList] ∧
    finder.find wordy.supply "a 3" none 2 =
      .ok (some { titled "A" with url := some tangledUrl }) := by
  have hurl : String.ofList (tangled.textIn angle) = tangledUrl := by decide +kernel
  obtain ⟨hwritten, hnames, _, hfind, _⟩ :=
    finder.short_for_full tangled tangled_clear.1 terse wordy terse_writesOut
  have hfound : finder.find terse.supply "a 3" none 2 =
      .ok (some { titled "A" with url := some tangledUrl }) := by rfl
  exact ⟨tangled_clear.1, terse_writesOut, hwritten.trans hurl, tangled_clear.2,
    hnames tangled_clear.2 (by decide +kernel), (hfind "a 3" none 2).trans hfound⟩

end Sample

end Shortcuts
