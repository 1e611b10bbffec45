/-!
Requests for documents on the web. A network is whatever answers them, from the client over the
link to the servers, and may do so in any way. The program goes by the status of an answer before
it reads the document.
-/
namespace Shortcuts

def version : String := "0.3.0"

namespace Web

/-- How requests introduce the program. -/
def userAgent : String := "qxs/" ++ version

/-- A request for the document at an address, which may be any text. -/
structure Request where
  address : String
  agent : String
  /-- Seconds that the answer may take. -/
  timeout : Nat
  deriving DecidableEq, Repr

/-- Why a request brought no document, with what led to it, the nearest cause first. -/
structure RequestFault where
  message : String
  causes : List String
  deriving DecidableEq, Repr

structure Response where
  /-- Where the request was led in the end. -/
  address : String
  status : Nat
  /-- What the status says in words. -/
  phrase : String
  /-- The document, unless it breaks off. -/
  text : Except RequestFault String

abbrev Network := Request → Except RequestFault Response

/-- A status from 400 to 599 is an error of the client or the server. -/
def Response.checked (r : Response) : Except RequestFault Response :=
  if 400 ≤ r.status ∧ r.status < 600 then
    let side := if r.status < 500 then "client" else "server"
    .error ⟨"HTTP status " ++ side ++ " error (" ++ toString r.status ++ " " ++ r.phrase ++
      ") for url (" ++ r.address ++ ")", []⟩
  else .ok r

namespace Network

def response (n : Network) (r : Request) : Except RequestFault Response :=
  (n r).bind Response.checked

def text (n : Network) (r : Request) : Except RequestFault String :=
  (n.response r).bind Response.text

/-- The network without a link. -/
def down : Network := fun r =>
  .error ⟨"error sending request for url (" ++ r.address ++ ")",
    ["client error (Connect)", "tcp connect error", "Network is unreachable (os error 101)"]⟩

end Network

end Web

end Shortcuts
