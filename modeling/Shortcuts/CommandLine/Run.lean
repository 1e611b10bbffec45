import Shortcuts.CommandLine.Options
import Shortcuts.Report
import Shortcuts.Settings.Config

/-!
Running a command line: the url of a query is printed, fetched or opened in the browser, or the
shortcuts that contain the query are listed. What is said on the error channel is the log up to
then and one closing remark.
-/
namespace Shortcuts.CommandLine

/-- How a run ends on the error channel. -/
inductive Closing where
  | silent
  | remark (text : String)
  | trouble (t : Trouble)
  deriving DecidableEq, Repr

structure Finish where
  exitCode : Nat
  output : String
  events : List Event
  accesses : List Access
  closing : Closing

/-- Everything outside that a run depends on. -/
structure Surroundings where
  world : World
  vars : PathVariables.Variables
  clock : Template.Clock

/-! ## Texts -/

/-- Search key, names of the arguments, title and url of a shortcut, with tabs between them. -/
def searchLine (key : String) (s : Shortcut) : String :=
  let url := s.url.getD ""
  let names := (Template.argumentNames url.toList).map Template.angle.text
  String.intercalate "\t"
    [key, String.ofList (Text.join [',', ' '] names), s.title.getD "", url]

def deprecationText (created alternative : Option String) : String :=
  let since := match created with
    | some created => "This shortcut is deprecated since " ++ created ++ "."
    | none => "This shortcut is deprecated."
  match alternative with
  | some query => since ++ " Try the following query as replacement: \"" ++ query ++ "\"."
  | none => since

def Closing.lines : Closing → List String
  | silent => []
  | remark text => [text]
  | trouble t => t.lines

/-- Whether a directive lets a line of this level through. -/
def passes (filter : String) (level : Level) : Bool :=
  filter = "qxs_cli=debug" || level = .warning

def shown (filter : String) (events : List Event) : List String :=
  (events.filter fun e => passes filter e.level).map Event.line

/-- The text on the error channel; `quiet` leaves out the log. -/
def Finish.errors (f : Finish) (quiet : Bool) (o : Options) : String :=
  let log := if quiet then [] else shown o.logFilter f.events
  String.join ((log ++ f.closing.lines).map (· ++ "\n"))

/-! ## Running -/

def Finish.failed (s : Session) (t : Trouble) : Finish :=
  ⟨1, "", s.events.reverse, s.accesses.reverse, .trouble t⟩

def Finish.done (s : Session) (output : String) (closing : Closing) : Finish :=
  ⟨0, output, s.events.reverse, s.accesses.reverse, closing⟩

def searchPath (v : PathVariables.Variables) : List String :=
  ((v.lookup "PATH").getD "").splitOn ":"

def openInBrowser (env : Surroundings) (browser url : String) (s : Session) : Finish :=
  match env.world.files.which (searchPath env.vars) browser with
  | none => .failed s (.own (.browserLaunchFailed browser "cannot find binary path"))
  | some program =>
    let s := { s with events := .opening url program :: s.events }
    match env.world.files.launch program with
    | .ok () => .done s "" .silent
    | .error fault => .failed s (.own (.browserLaunchFailed browser fault.message))

/-- Seconds that the page at a url may take. -/
def pageTimeout : Nat := 30

def Finish.faulted (s : Session) (context : String) (fault : Web.RequestFault) : Finish :=
  .failed s ((Trouble.foreign fault.message fault.causes).within context)

def fetchPage (env : Surroundings) (url : String) (s : Session) : Finish :=
  let request : Web.Request := ⟨url, Web.userAgent, pageTimeout⟩
  let s := { s with
    events := .fetchingPage url :: s.events
    accesses := .request request :: s.accesses }
  match env.world.network.response request with
  | .error fault => .faulted s ("Failed to fetch " ++ url) fault
  | .ok response =>
    match response.text with
    | .error fault => .faulted s ("Failed to read response from " ++ url) fault
    | .ok body => .done s body .silent

def search (c : Config) (o : Options) (s : Session) : Finish :=
  match (c.environment.search Session.supply o.query).run s with
  | (.error f, s) => .failed s (.own f)
  | (.ok found, s) =>
    .done s (String.join (found.entries.map fun e => searchLine e.1 e.2 ++ "\n")) .silent

def resolve (env : Surroundings) (c : Config) (o : Options) (s : Session) : Finish :=
  match (c.environment.process Session.supply env.clock o.query).run s with
  | (.error f, s) => .failed s (.own f)
  | (.ok .notFound, s) => { Finish.done s "" (.remark "Shortcut not found.") with exitCode := 1 }
  | (.ok (.deprecated created alternative), s) =>
    .done s "" (.remark (deprecationText created alternative))
  | (.ok (.success url _), s) =>
    if o.has .output then .done s (url ++ "\n") .silent
    else if o.has .fetch then fetchPage env url s
    else openInBrowser env c.browser url s

def run (env : Surroundings) (o : Options) : Finish :=
  match Config.loadOptional env.world.files env.vars o.config with
  | (.error f, events) => .failed ⟨env.world, [], events.reverse, []⟩ (.own f)
  | (.ok c, events) =>
    let s : Session := ⟨env.world, c.providers, events.reverse, []⟩
    if o.has .search then search c o s else resolve env c o s

def versionText : String := "qxs " ++ version

end Shortcuts.CommandLine
