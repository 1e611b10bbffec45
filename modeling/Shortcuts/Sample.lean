import Shortcuts.Resolution

/-!
A small store to try queries on, with entries of every kind: plain, deprecated with and without an
alternative, without a url, and included in the language of the query.
-/
namespace Shortcuts.Sample

def shortcut (title url : String) : Entry :=
  .full ⟨none, { Shortcut.empty with title := some title, url := some url }⟩

def retired (alternative : Option String) : Entry :=
  .full ⟨none, { Shortcut.empty with deprecated := some ⟨some "2024-03-31", alternative⟩ }⟩

def general : EntryMap := .ofList [
  ("bvg 2", shortcut "BVG Verbindungssuche"
    "https://www.bvg.de/de/verbindungen/verbindungssuche?S=<Start>&Z=<Ziel>&start=1"),
  ("behvaugeh 2", retired (some "bvg <Start>, <Ziel>")),
  ("invalidalternative 2", retired (some "bvg <Start>")),
  ("noalterantive 2", retired none),
  ("resultmissingurl 2", .full ⟨none, { Shortcut.empty with title := some "Broken shortcut" }⟩),
  ("exampledefault 1", shortcut "Example search" "https://example.com/?query=<query>"),
  ("wikipedia-de 1", shortcut "Wikipedia (Deutsch)"
    "https://de.wikipedia.org/w/index.php?search=<query>"),
  ("gn 1", shortcut "Google News"
    "https://news.google.com/search?q=<query>&gl=<$country: \x7b\x7d>")]

def german : EntryMap := .ofList [
  ("w 1", .full ⟨some (.reference "wikipedia-<$language> 1" (some "o")), .empty⟩)]

def english : EntryMap := .ofList [
  ("w 1", shortcut "Wikipedia"
    "https://<$language>.wikipedia.org/wiki/Special:Search?search=<query>")]

def namespaces : KeyMap EntryMap := .ofList [("o", general), ("de", german), ("en", english)]

def store : Store
  | .official name => namespaces.get? name
  | _ => none

def environment : Environment where
  country := "de"
  language := "de"
  namespaces := [.official "o", .official "de", .official ".de"]
  defaultKeyword := none

def clock : Template.Clock := ⟨2025, 1, 1, 0, 0⟩

/-! ## Default keywords -/

/-- Retired shortcuts for one argument, with a url and without. -/
def retiredStore : Store
  | .official "o" => some (.ofList [
    ("old 1", .full ⟨none, { Shortcut.empty with
      url := some "https://old.example/<q>", deprecated := some ⟨some "2024-03-31", none⟩ }⟩),
    ("gone 1", retired none)])
  | _ => none

def fallingBackTo (keyword : String) : Environment :=
  { environment with defaultKeyword := some keyword }

/-! ## Includes -/

def including (i : Include) (own : Shortcut) : Entry := .full ⟨some i, own⟩

def titled (title : String) : Shortcut := { Shortcut.empty with title := some title }

/-- Entries that include each other one by one, the second from the namespace of the country. -/
def chained : Store
  | .official "o" => some (.ofList [
    ("a 1", including (.key "b-<$language> 1") (titled "A")),
    ("b-de 1", .short "https://b.example/"),
    ("c 1", .short "https://c.example/\x7b%q\x7d")])
  | .official ".de" => some (.ofList [
    ("b-de 1", including (.reference "c 1" none)
      { titled "B" with description := some "Over c" })])
  | _ => none

/-- An entry with alternatives: one that is missing, one in another namespace and itself. -/
def branching : Store
  | .official "o" => some (.ofList [
    ("a 1", including (.list [.key "missing 1", .reference "b 1" (some "p"), .key "a 1"])
      (titled "A"))])
  | .official "p" => some (.ofList [
    ("b 1", including (.list [.list [], .key "c 1"]) .empty),
    ("c 1", shortcut "C" "https://c.example/<q>")])
  | _ => none

def chainEnd : Shortcut := { titled "End" with url := some "https://end" }

/-- A chain of ten includes. -/
def longChain : Store
  | .official "o" => some (.ofList [
    ("k0 1", including (.key "k1 1") .empty), ("k1 1", including (.key "k2 1") .empty),
    ("k2 1", including (.key "k3 1") .empty), ("k3 1", including (.key "k4 1") .empty),
    ("k4 1", including (.key "k5 1") .empty), ("k5 1", including (.key "k6 1") .empty),
    ("k6 1", including (.key "k7 1") .empty), ("k7 1", including (.key "k8 1") .empty),
    ("k8 1", including (.key "k9 1") .empty), ("k9 1", including (.key "k10 1") .empty),
    ("k10 1", .full ⟨none, chainEnd⟩)])
  | _ => none

def finder : Finder := ⟨[.official "o", .official ".de"], "de"⟩

end Shortcuts.Sample
