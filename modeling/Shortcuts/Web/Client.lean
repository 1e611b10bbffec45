import Shortcuts.Web.Exchange
import Std.Async

/-!
The client for plain connections. It follows a document that has moved and gives up when the time
of the request is over. Secured connections cannot be made.
-/
namespace Shortcuts.Web.Client

open Std Async Net

def socketAddress (port : UInt16) : IPAddr → SocketAddress
  | .v4 address => .v4 ⟨address, port⟩
  | .v6 address => .v6 ⟨address, port⟩

/-- A connection to the first of these addresses that takes one. -/
def connect (port : UInt16) : List IPAddr → Async TCP.Socket.Client
  | [] => throw (.userError "no address")
  | [address] => attempt address
  | address :: rest => do
    try attempt address catch _ => connect port rest
where
  attempt (address : IPAddr) : Async TCP.Socket.Client := do
    let socket ← TCP.Socket.Client.mk
    socket.connect (socketAddress port address)
    return socket

/-- What comes until the server closes the connection, in so many pieces at most. -/
def receive (socket : TCP.Socket.Client) (received : ByteArray) : (pieces : Nat) → Async ByteArray
  | 0 => return received
  | pieces + 1 => do
    match ← socket.recv? 65536 with
    | some bytes => receive socket (received ++ bytes) pieces
    | none => return received

def mostPieces : Nat := 65536

def exchange (address : Address) (agent : String) :
    Async (Except RequestFault ServerAnswer) := do
  let name := address.server
  let bare := if name.startsWith "[" then ((name.drop 1).dropEnd 1).toString else name
  let failed (causes : List String) := Except.error (address.unsent causes)
  let servers ← try DNS.getAddrInfo bare "" catch fault =>
    return failed ["client error (Connect)", "dns error", toString fault]
  let port := (address.port.getD 80).toUInt16
  let socket ← try connect port servers.toList catch fault =>
    return failed ["client error (Connect)", "tcp connect error", toString fault]
  let lines := address.requestLines agent
  socket.send (String.join (lines.map (· ++ "\r\n"))).toUTF8
  match ServerAnswer.read? (← receive socket .empty mostPieces).toList with
  | some answer => return .ok answer
  | none => return failed ["client error (SendRequest)",
      "connection closed before message completed"]

/-- The answer to a request that is sent to an address, and on to where the document has moved. -/
def follow (agent : String) (address : Address) : (moves : Nat) →
    Async (Except RequestFault Response)
  | 0 => return .error ⟨"error following redirect for url (" ++ address.text ++ ")",
      ["too many redirects"]⟩
  | moves + 1 => do
    if address.scheme = ['h', 't', 't', 'p', 's'] then
      return .error (address.unsent ["client error (Connect)", "no secured connections"])
    match ← exchange address agent with
    | .error fault => return .error fault
    | .ok answer =>
      match answer.movedTo? address with
      | some there => follow agent there moves
      | none => return .ok (answer.response address)

def send (r : Request) : IO (Except RequestFault Response) := do
  match r.target with
  | .error fault => return .error fault
  | .ok address =>
    let late : Except RequestFault Response := .error (address.unsent ["operation timed out"])
    let lost (fault : IO.Error) : Except RequestFault Response :=
      .error (address.unsent ["client error (SendRequest)", toString fault])
    let answered : Async (Except RequestFault Response) := do
      try follow r.agent address 11 catch fault => return lost fault
    let timedOut : Async (Except RequestFault Response) := do
      Async.sleep (.ofNat (1000 * r.timeout))
      return late
    haveI : Inhabited (Except RequestFault Response) := ⟨late⟩
    (Async.race answered timedOut).block

end Shortcuts.Web.Client
