import Shortcuts.Failure
import Shortcuts.Text.Pieces
import Shortcuts.Yaml.Value

/-!
The values of variable placeholders: the language, the country, and the local time in a format of
its own. The inner text of a time placeholder is a YAML mapping of `$now` to a mapping with the
format as `output`.
-/
namespace Shortcuts.Template

structure Clock where
  year : Int
  month : Nat
  day : Nat
  hour : Nat
  minute : Nat
  deriving DecidableEq, Repr

/-- What variable placeholders refer to. -/
structure Setting where
  language : String
  country : String
  clock : Clock
  deriving DecidableEq, Repr

def padded (width : Nat) (digits : List Char) : List Char :=
  List.replicate (width - digits.length) '0' ++ digits

def twoDigits (n : Nat) : List Char := padded 2 (Nat.toDigits 10 n)

/-- At least four characters, of which the sign of a year before zero is one. -/
def yearText (year : Int) : List Char :=
  let digits := Nat.toDigits 10 year.natAbs
  if year < 0 then '-' :: padded 3 digits else padded 4 digits

/-- The parts of a time format and their values, in the order in which they are put in. -/
def Clock.parts (clock : Clock) : List (List Char × List Char) :=
  [(['Y', 'Y', 'Y', 'Y'], yearText clock.year), (['M', 'M'], twoDigits clock.month),
    (['D', 'D'], twoDigits clock.day), (['H', 'H'], twoDigits clock.hour),
    (['m', 'm'], twoDigits clock.minute)]

/-- Puts in one value after another for its part of the format. -/
def putIn (parts : List (List Char × List Char)) (format : List Char) : List Char :=
  parts.foldl (fun text part => Text.replace part.1 part.2 text) format

def Clock.format (clock : Clock) (format : List Char) : List Char := putIn clock.parts format

/-- The time format of a placeholder, brackets included. -/
def timeFormat? (token : List Char) : Option String :=
  match token with
  | '<' :: rest =>
    if rest.getLast? = some '>' then do
      let value ← Yaml.parse rest.dropLast
      let now ← value.get? "$now"
      let output ← now.get? "output"
      output.text?
    else none
  | _ => none

/-- The value of a placeholder, brackets included. -/
def Setting.value (s : Setting) (token : String) : Except Failure String :=
  if token = "<$language>" then .ok s.language
  else if token = "<$country: \x7b\x7d>" then .ok s.country
  else if "<$now".toList.isPrefixOf token.toList then
    match timeFormat? token.toList with
    | some format => .ok (String.ofList (s.clock.format format.toList))
    | none => .error (.invalidNowPlaceholder token)
  else .error (.invalidVariablePlaceholder token)

end Shortcuts.Template
