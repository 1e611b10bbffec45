import Shortcuts.Text.Blank
import Shortcuts.Text.Pieces

/-!
Typed queries `[.country.][prefix.]*keyword argument, argument, …`. The first word is cut at its
dots: the last piece is the keyword, a first piece that is empty announces a country of two
characters, every other piece names a namespace, and the first of those with two characters is
the language too.
-/
namespace Shortcuts

structure Query where
  keyword : String
  arguments : List String
  /-- Names of official namespaces, the least important first. -/
  namespaces : List String
  language : Option String
  country : Option String
  deriving DecidableEq, Repr

namespace Query

/-- The first word of a trimmed text and what stands behind it, trimmed as well. -/
def cut (text : List Char) : List Char × List Char :=
  let trimmed := Text.trim text
  (trimmed.takeWhile (· ≠ ' '), Text.trim (trimmed.dropWhile (· ≠ ' ')))

def argumentsOf (text : List Char) : List (List Char) :=
  if text.isEmpty then [] else (Text.split ',' text).map Text.trim

/-- Takes the country off the pieces in front of the keyword. -/
def countryOf : List (List Char) → Option (List Char) × List (List Char)
  | [] :: code :: rest => if code.length = 2 then (some code, rest) else (none, code :: rest)
  | [] :: [] => (none, [])
  | pieces => (none, pieces)

def languageOf (pieces : List (List Char)) : Option (List Char) :=
  pieces.find? (·.length = 2)

/-- The official namespace of a country. -/
def countryNamespace (code : List Char) : List Char := '.' :: code

def parse (text : String) : Query :=
  let (word, rest) := cut text.toList
  let pieces := Text.split '.' word
  let (country, named) := countryOf pieces.dropLast
  { keyword := String.ofList (pieces.getLastD [])
    arguments := (argumentsOf rest).map String.ofList
    namespaces := (((country.map countryNamespace).toList ++ named)).map String.ofList
    language := (languageOf named).map String.ofList
    country := country.map String.ofList }

end Query

end Shortcuts
