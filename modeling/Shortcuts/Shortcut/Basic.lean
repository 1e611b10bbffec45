import Shortcuts.Json.Basic
import Shortcuts.Text.Lowercase
import Shortcuts.Text.Pieces

/-!
Resolved shortcuts. Laid over another one, a shortcut keeps each field that it sets and takes the
others from below; fields without a meaning of their own are merged name by name.
-/
namespace Shortcuts

/-- Marks a retired shortcut. The alternative is a template for the query to use instead. -/
structure Deprecation where
  created : Option String
  alternative : Option String
  deriving DecidableEq, Inhabited

structure Shortcut where
  url : Option String
  title : Option String
  description : Option String
  tags : Option (List String)
  deprecated : Option Deprecation
  extra : KeyMap Json
  deriving DecidableEq, Inhabited

namespace Shortcut

def empty : Shortcut := ⟨none, none, none, none, none, .empty⟩

def ofUrl (url : String) : Shortcut := { empty with url := some url }

def mergedOver (own base : Shortcut) : Shortcut where
  url := own.url.or base.url
  title := own.title.or base.title
  description := own.description.or base.description
  tags := own.tags.or base.tags
  deprecated := own.deprecated.or base.deprecated
  extra := base.extra.extend own.extra

/-- The texts that a full-text search looks at. -/
def searchTexts (s : Shortcut) : List String :=
  s.title.toList ++ s.description.toList ++ s.url.toList

/-- Whether one of the texts, lower-cased, contains the query, which is lower-cased already. -/
def mentions (s : Shortcut) (query : String) : Bool :=
  s.searchTexts.any fun text => Text.contains query.toList (Text.lowercase text.toList)

end Shortcut

end Shortcuts
