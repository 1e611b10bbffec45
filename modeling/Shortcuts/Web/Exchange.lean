import Shortcuts.Web.Address
import Shortcuts.Web.Network

/-!
Requests and answers as they are written on a connection. The server is asked to close it behind
its answer, so the document goes on to the end of what comes.
-/
namespace Shortcuts.Web

def isWebScheme (scheme : List Char) : Bool :=
  scheme = ['h', 't', 't', 'p'] || scheme = ['h', 't', 't', 'p', 's']

/-- Where a request goes to. It needs an address with one of the schemes of the web. -/
def Request.target (r : Request) : Except RequestFault Address :=
  match Address.parse r.address with
  | .error fault => .error ⟨"builder error", [fault.message]⟩
  | .ok address =>
    if isWebScheme address.scheme then .ok address
    else .error ⟨"builder error for url (" ++ address.text ++ ")", ["URL scheme is not allowed"]⟩

def Address.unsent (a : Address) (causes : List String) : RequestFault :=
  ⟨"error sending request for url (" ++ a.text ++ ")", causes⟩

def Address.server (a : Address) : String := String.ofList (a.host.getD [])

/-- The lines of a request for the document at an address. -/
def Address.requestLines (a : Address) (agent : String) : List String :=
  let query := match a.query with
    | some query => '?' :: query
    | none => []
  let port := match a.port with
    | some port => ":" ++ toString port
    | none => ""
  ["GET " ++ String.ofList (a.path ++ query) ++ " HTTP/1.0", "user-agent: " ++ agent,
    "accept: */*", "host: " ++ a.server ++ port, "connection: close", ""]

/-! ## Answers -/

structure ServerAnswer where
  status : Nat
  phrase : String
  /-- The names are in lower case. -/
  headers : List (String × String)
  body : List UInt8

namespace ServerAnswer

/-- What stands in front of the first empty line and what behind it. -/
def cutHead? : List UInt8 → Option (List UInt8 × List UInt8)
  | 13 :: 10 :: 13 :: 10 :: body => some ([], body)
  | b :: rest => (cutHead? rest).map fun (head, body) => (b :: head, body)
  | [] => none

/-- A text with one character for each byte. -/
def latin (bytes : List UInt8) : String := String.ofList (bytes.map fun b => Char.ofNat b.toNat)

def header? (line : String) : Option (String × String) :=
  match line.splitOn ":" with
  | name :: value => some (name.toLower, (":".intercalate value).trimAscii.toString)
  | [] => none

def read? (bytes : List UInt8) : Option ServerAnswer := do
  let (head, body) ← cutHead? bytes
  match (latin head).splitOn "\r\n" with
  | first :: headers =>
    match first.splitOn " " with
    | _ :: status :: phrase =>
      some ⟨← status.toNat?, " ".intercalate phrase, headers.filterMap header?, body⟩
    | _ => none
  | [] => none

/-- Where the document has gone. A location is an address or a path on the same server. -/
def movedTo? (here : Address) (answer : ServerAnswer) : Option Address := do
  guard ([301, 302, 303, 307, 308].contains answer.status)
  let location ← answer.headers.lookup "location"
  let base := { here with path := [], query := none, fragment := none }.text
  let text := if location.startsWith "/" then base ++ location else location
  (Address.parse text).toOption

/-- The document as a text, without the mark that may stand in front of it. Bytes that are no
UTF-8 are taken one by one. -/
def document (answer : ServerAnswer) : String :=
  let text := (String.fromUTF8? ⟨answer.body.toArray⟩).getD (latin answer.body)
  if text.startsWith "\uFEFF" then (text.drop 1).toString else text

/-- Whether the whole document has come, as far as its length has been told. -/
def isComplete (answer : ServerAnswer) : Bool :=
  match (answer.headers.lookup "content-length").bind String.toNat? with
  | some length => length ≤ answer.body.length
  | none => true

def response (answer : ServerAnswer) (address : Address) : Response where
  address := address.text
  status := answer.status
  phrase := answer.phrase
  text :=
    if answer.isComplete then .ok answer.document
    else .error ⟨"error decoding response body", ["end of file before message length reached"]⟩

end ServerAnswer

end Shortcuts.Web
