/-!
What happens while a query is resolved, as lines for a log.
-/
namespace Shortcuts

inductive Event where
  | configLoading (path : String)
  | configAbsent (path : String)
  | processing (keyword : String) (arguments : Nat) (language country : String)
  | searching (searchKey : String) (namespaces : Nat)
  | fetching (source : String)
  | loading (address : String)
  | loaded (namespaces : Nat) (address : String)
  | reading (path : String)
  | malformedEntry (searchKey source : String)
  | noData (source : String)
  | found (searchKey source : String)
  | noShortcut (keyword : String) (arguments : Nat)
  | fallingBack (keyword : String)
  | opening (url program : String)
  | fetchingPage (url : String)
  deriving DecidableEq, Repr

inductive Level where
  | debug | info | warning
  deriving DecidableEq, Repr

namespace Event

def level : Event → Level
  | malformedEntry .. | noData _ => .warning
  | opening .. | fetchingPage _ => .info
  | _ => .debug

def text : Event → String
  | configLoading path => "Loading config from " ++ path
  | configAbsent path => "No config at " ++ path ++ ", using defaults"
  | processing keyword arguments language country =>
    "Processing keyword '" ++ keyword ++ "' with " ++ toString arguments ++
      " argument(s), language '" ++ language ++ "', country '" ++ country ++ "'"
  | searching key namespaces =>
    "Searching for '" ++ key ++ "' in " ++ toString namespaces ++ " namespace(s)"
  | fetching source => "Fetching namespace '" ++ source ++ "'"
  | loading address => "Loading shortcut data from " ++ address
  | loaded namespaces address =>
    "Loaded " ++ toString namespaces ++ " official namespaces from " ++ address
  | reading path => "Reading shortcut file " ++ path
  | malformedEntry key source =>
    "Skipping malformed shortcut '" ++ key ++ "' in namespace '" ++ source ++
      "': data did not match any variant of untagged enum ShortcutEntry"
  | noData source => "Namespace '" ++ source ++ "' has no data, skipping"
  | found key source => "Found '" ++ key ++ "' in namespace '" ++ source ++ "'"
  | noShortcut keyword arguments =>
    "No shortcut for '" ++ keyword ++ "' with up to " ++ toString arguments ++ " argument(s)"
  | fallingBack keyword => "Falling back to default keyword '" ++ keyword ++ "'"
  | opening url program => "Opening " ++ url ++ " with " ++ program
  | fetchingPage url => "Fetching " ++ url

def line (e : Event) : String :=
  match e.level with
  | .debug => "DEBUG " ++ e.text
  | .info => "INFO " ++ e.text
  | .warning => "WARN " ++ e.text

end Event

end Shortcuts
