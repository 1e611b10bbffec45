import Shortcuts.Failure
import Shortcuts.Lookup.Finder

/-!
Failures as they are shown to a user, with details on the failure and a suggestion what to do
about it.
-/
namespace Shortcuts

structure Report where
  failure : Failure
  details : Option String
  suggestion : Option String
  deriving DecidableEq, Repr

namespace Report

def details? : Failure → Option String
  | .circularInclusion _ =>
    some ("Include chains are limited to " ++ toString maxIncludeDepth ++ " levels")
  | .unsupportedNamespaceSource _ => some "This is a bug in qxs, please report it"
  | _ => none

def suggestion? : Failure → Option String
  | .defaultKeywordNotFound _ => some ("Check default_keyword in your qxs config or add the " ++
      "keyword to one of your namespaces")
  | .namespaceUnavailable .. => some ("Check your network connection and the namespace " ++
      "definitions in your qxs config")
  | .configError _ => some "Fix the config file or pass another one with --config"
  | .browserLaunchFailed .. =>
    some "Set 'browser' in your qxs config or use --output to print the URL"
  | _ => none

def ofFailure (f : Failure) : Report := ⟨f, details? f, suggestion? f⟩

def labelled (label : String) (text : Option String) : List String :=
  (text.map (label ++ ·)).toList

/-- The parts of a report on lines of their own. -/
def text (r : Report) : String :=
  String.intercalate "\n" (r.failure.message :: labelled "Details: " r.details ++
    labelled "Suggestion: " r.suggestion)

/-- The lines of a report on the error channel. -/
def lines (r : Report) : List String :=
  ("error: " ++ r.failure.message) :: labelled "details: " r.details ++
    labelled "suggestion: " r.suggestion

end Report

/-- A failure of the program's own, or one told by somebody else: what went wrong last comes
first, then what led to it. -/
inductive Trouble where
  | own (failure : Failure)
  | foreign (message : String) (causes : List String)
  deriving DecidableEq, Repr

namespace Trouble

/-- What somebody was doing when it happened. A failure of our own needs no such explanation. -/
def within (context : String) : Trouble → Trouble
  | own f => own f
  | foreign message causes => foreign context (message :: causes)

/-- Further lines of a cause are indented like its first one. -/
def indented (first further : String) (cause : String) : List String :=
  match cause.splitOn "\n" with
  | [] => [first]
  | line :: rest => (first ++ line) :: rest.map fun l => if l.isEmpty then l else further ++ l

def numbered (n : Nat) (causes : List String) : List String :=
  match causes with
  | [] => []
  | cause :: rest =>
    let number := toString n
    let mark := String.ofList (List.replicate (5 - number.length) ' ') ++ number ++ ": "
    indented mark "       " cause ++ numbered (n + 1) rest

def causeLines : List String → List String
  | [] => []
  | [cause] => "" :: "Caused by:" :: indented "    " "    " cause
  | causes => "" :: "Caused by:" :: numbered 0 causes

def lines : Trouble → List String
  | own f => (Report.ofFailure f).lines
  | foreign message causes => message :: causeLines causes

end Trouble

end Shortcuts
