/-!
Cutting a text at a character, joining pieces, finding one text inside another and replacing
its occurrences from left to right.
-/
namespace Shortcuts.Text

/-- The pieces between the occurrences of `sep`: one more than there are occurrences. -/
def split (sep : Char) : List Char → List (List Char)
  | [] => [[]]
  | c :: rest =>
    if c = sep then [] :: split sep rest
    else match split sep rest with
      | [] => [[c]]
      | piece :: pieces => (c :: piece) :: pieces

def join (sep : List Char) (pieces : List (List Char)) : List Char :=
  List.intercalate sep pieces

/-- Whether `word` occurs in the text. -/
def contains (word : List Char) : List Char → Bool
  | [] => word.isEmpty
  | c :: rest => word.isPrefixOf (c :: rest) || contains word rest

/-- The first `skip` characters belong to an occurrence that has been replaced already. -/
def replaceFrom (word value : List Char) : (skip : Nat) → List Char → List Char
  | _, [] => []
  | skip + 1, _ :: rest => replaceFrom word value skip rest
  | 0, c :: rest =>
    if word.isPrefixOf (c :: rest) then value ++ replaceFrom word value (word.length - 1) rest
    else c :: replaceFrom word value 0 rest

/-- Replaces the occurrences of a word that is not empty, each search going on behind the one
before. -/
def replace (word value text : List Char) : List Char := replaceFrom word value 0 text

end Shortcuts.Text
