/-!
The words of a command line. Options may stand anywhere in front of a double hyphen, short ones
also in clusters; all other words form the query. An option that takes a value is settled when the
next option is, so a fault in what follows may be reported before a fault in the value.
-/
namespace Shortcuts.CommandLine

inductive Flag where
  | output | fetch | search | verbose
  deriving DecidableEq, Repr

structure Options where
  flags : List Flag
  config : Option String
  /-- The words of the query. -/
  words : List String
  deriving DecidableEq, Repr

/-- Why the words are not followed. -/
inductive Stop where
  | help | version
  | conflict | noValue | surplusValue | unknownOption | noQuery
  deriving DecidableEq, Repr

namespace Stop

def exitCode : Stop → Nat
  | help | version => 0
  | _ => 2

def message : Stop → String
  | help => "Resolve keyword queries into URLs"
  | version => "qxs"
  | conflict => "these options cannot be used together or more than once"
  | noValue => "a value is required for '--config <CONFIG>'"
  | surplusValue => "a value was given to an option that takes none"
  | unknownOption => "there is no such option"
  | noQuery => "a query is required: [.<country>.][<namespace>.]<keyword> [argument, ...]"

end Stop

/-- An option by its long or short name. -/
inductive Switch where
  | flag (f : Flag)
  | config
  | stop (s : Stop)

def long? (name : String) : Option Switch :=
  [("output", .flag .output), ("fetch", .flag .fetch), ("search", .flag .search),
    ("verbose", .flag .verbose), ("config", .config), ("help", .stop .help),
    ("version", .stop .version)].lookup name

def short? (c : Char) : Option Switch :=
  [('o', .flag .output), ('f', .flag .fetch), ('s', .flag .search), ('v', .flag .verbose),
    ('c', .config), ('h', .stop .help), ('V', .stop .version)].lookup c

/-- The state between two words. -/
structure Scan where
  flags : List Flag := []
  config : Option String := none
  /-- The words of the query, the last one first. -/
  reversed : List String := []
  /-- An option that waits for its value, or for being settled with it. -/
  pending : Option (Option String) := none
  /-- Whether a double hyphen has been met. -/
  wordsOnly : Bool := false

namespace Scan

def takeConfig (s : Scan) (value : String) : Except Stop Scan :=
  if s.config.isSome then .error .conflict
  else if value.isEmpty then .error .noValue
  else .ok { s with config := some value }

def settle (s : Scan) : Except Stop Scan :=
  match s.pending with
  | none => .ok s
  | some none => .error .noValue
  | some (some value) => takeConfig { s with pending := none } value

def takeFlag (s : Scan) (f : Flag) : Except Stop Scan := do
  let s ← s.settle
  if s.flags.contains f then .error .conflict else .ok { s with flags := f :: s.flags }

/-- A switch with the value that is attached to it, if any. -/
def switch (s : Scan) (w : Switch) (attached : Option String) : Except Stop Scan :=
  match w, attached with
  | .config, none => s.settle.map fun s => { s with pending := some none }
  | .config, some value => s.settle.bind (·.takeConfig value)
  | _, some _ => .error .surplusValue
  | .flag f, none => s.takeFlag f
  | .stop stop, none => s.settle.bind fun _ => .error stop

def long (s : Scan) (cs : List Char) : Except Stop Scan :=
  let name := cs.takeWhile (· ≠ '=')
  let attached := (cs.dropWhile (· ≠ '=')).tail?.map String.ofList
  match long? (String.ofList name) with
  | some w => s.switch w attached
  | none => .error .unknownOption

/-- A cluster of short options; what follows one with a value is its value. -/
def cluster (s : Scan) : List Char → Except Stop Scan
  | [] => .ok s
  | c :: rest =>
    match short? c with
    | none => .error .unknownOption
    | some .config =>
      match rest with
      | [] => s.switch .config none
      | '=' :: value => s.switch .config (some (String.ofList value))
      | value => s.switch .config (some (String.ofList value))
    | some w => (s.switch w none).bind (cluster · rest)

def word (s : Scan) (text : String) : Except Stop Scan :=
  s.settle.map fun s => { s with reversed := text :: s.reversed }

def step (s : Scan) (text : String) : Except Stop Scan :=
  if s.wordsOnly then s.word text
  else match text.toList, s.pending with
    | ['-', '-'], _ => .ok { s with wordsOnly := true }
    | '-' :: '-' :: cs, _ => s.long cs
    | '-' :: c :: cs, _ => s.cluster (c :: cs)
    | _, some none => .ok { s with pending := some (some text) }
    | _, _ => s.word text

/-- The configuration named by the environment counts if no option names one. -/
def withDefault (s : Scan) (named : Option String) : Except Stop Scan :=
  match s.config, named with
  | none, some value => s.takeConfig value
  | _, _ => .ok s

/-- At most one of the flags that say what to do with the url. -/
def check (s : Scan) : Except Stop Options :=
  if 1 < ([Flag.output, .fetch, .search].filter s.flags.contains).length then .error .conflict
  else if s.reversed.isEmpty then .error .noQuery
  else .ok ⟨s.flags, s.config, s.reversed.reverse⟩

end Scan

/-- `named` is the configuration named by the environment. -/
def parse (named : Option String) (arguments : List String) : Except Stop Options := do
  let s ← arguments.foldlM Scan.step {}
  let s ← s.settle
  let s ← s.withDefault named
  s.check

namespace Options

def has (o : Options) (f : Flag) : Bool := o.flags.contains f

def query (o : Options) : String := String.intercalate " " o.words

/-- The directive for the log: everything, or warnings only. -/
def logFilter (o : Options) : String :=
  if o.has .verbose then "qxs_cli=debug" else "qxs_cli=warn"

end Options

end Shortcuts.CommandLine
