import Shortcuts.Resolution
import Shortcuts.Settings.PathVariables
import Shortcuts.Toml.Document

/-!
The configuration of a user. Every setting may be left out, a setting that is not known is an
error. Paths of namespaces may hold variables and are seen from the directory of the
configuration.
-/
namespace Shortcuts

structure Config where
  namespaces : List Source
  language : String
  country : String
  defaultKeyword : Option String
  browser : String
  dataAddress : String
  githubBase : String

namespace Config

def default : Config where
  namespaces := [.official "o", .official "en", .official ".us"]
  language := "en"
  country := "us"
  defaultKeyword := none
  browser := "xdg-open"
  dataAddress := "https://qxs.kesto.de/data.json"
  githubBase := "https://raw.githubusercontent.com/"

def environment (c : Config) : Environment :=
  ⟨c.country, c.language, c.namespaces, c.defaultKeyword⟩

def providers (c : Config) : List Provider := Provider.standard c.dataAddress c.githubBase

/-! ## Reading -/

def source? (value : Toml.Value) : Option Source :=
  value.json?.bind fun json => (Source.ofJson json).toOption

/-- The configuration with one setting read. -/
def set (c : Config) (name : String) (value : Toml.Value) : Option Config :=
  match name, value with
  | "namespaces", .array items => (items.mapM source?).map fun found => { c with namespaces := found }
  | "language", .text s => some { c with language := s }
  | "country", .text s => some { c with country := s }
  | "default_keyword", .text s => some { c with defaultKeyword := some s }
  | "browser", .text s => some { c with browser := s }
  | "data_source_url", .text s => some { c with dataAddress := s }
  | "github_base_url", .text s => some { c with githubBase := s }
  | _, _ => none

def ofText? (text : String) : Option Config :=
  (Toml.parse text).bind fun settings => settings.foldlM (fun c s => c.set s.1 s.2) default

/-- Expands the path of a source and sees it from a directory. -/
def placed (vars : PathVariables.Variables) (directory : String) : Source →
    Except Failure Source
  | .file name path =>
    match PathVariables.expand vars path with
    | .ok expanded => .ok (.file name (Path.join directory expanded))
    | .error unset =>
      .error (.configError ("Failed to expand namespace path '" ++ path ++
        "': error looking key '" ++ unset ++ "' up: environment variable not found"))
  | s => .ok s

def unreadable (path : String) (fault : FileFault) : Failure :=
  .configError ("Failed to read config from " ++ path ++ ": " ++ fault.message)

def unparsable (path reason : String) : Failure :=
  .configError ("Failed to parse config from " ++ path ++ ": " ++ reason)

/-- Reads the configuration at a path. -/
def load (files : Files) (vars : PathVariables.Variables) (path : String) :
    Except Failure Config :=
  match files.readText path with
  | .error fault => .error (unreadable path fault)
  | .ok text =>
    match ofText? text with
    | none => .error (unparsable path "not a table of known settings")
    | some c =>
      let directory := (Path.parent? path).getD "."
      (c.namespaces.mapM (placed vars directory)).map fun found => { c with namespaces := found }

/-- Where the configuration lies if no other place is named. -/
def defaultPath (vars : PathVariables.Variables) : Except Failure String :=
  match PathVariables.home? vars with
  | some home => .ok (Path.join home ".qxs/config.toml")
  | none => .error (.configError "Unable to determine home directory")

/-- Reads the configuration at a path, if there is one, with a note on it for the log. Without a
file everything has its default. -/
def loadOptional (files : Files) (vars : PathVariables.Variables) (path : Option String) :
    Except Failure Config × List Event :=
  match path.elim (defaultPath vars) .ok with
  | .error f => (.error f, [])
  | .ok path =>
    if files.exists? path then (load files vars path, [.configLoading path])
    else (.ok default, [.configAbsent path])

end Config

end Shortcuts
