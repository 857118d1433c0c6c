import SmartAccount.Transport.Http
import SmartAccount.Transport.Stack
import Std.Async.DNS
import Std.Async.TCP
import Std.Async.Timer
/-!
# Connections to a node

Here the program meets the network: requests are posted to a server over a socket, and a
dialogue is held with it. What is sent, how an answer is read, and whether a request is sent again
is decided elsewhere.
-/

namespace SmartAccount.Connection

open Std.Async Transport

/-- Of two attempts the first that ends counts; before there is one, none has got through. -/
instance : Inhabited Delivered := ⟨.error (.transport "")⟩

/-- What is said of a server that could not be talked to. -/
def unreachableText : String := "error sending request"

/-- Lets time pass. -/
def pass (span : Duration) : Async Unit := sleep (.ofNat span.millis)

/-- The addresses of a host. -/
def addressesOf (host : String) : Async (List Std.Net.IPAddr) :=
  Array.toList <$> DNS.getAddrInfo (Url.bareHost host) ""

/-- An address with a port. -/
def socketAddress (port : UInt16) : Std.Net.IPAddr → Std.Net.SocketAddress
  | .v4 address => .v4 ⟨address, port⟩
  | .v6 address => .v6 ⟨address, port⟩

/-- Connects to the first address at which there is a server. -/
def connectAny (port : UInt16) : List Std.Net.IPAddr → Async TCP.Socket.Client
  | [] => throw (IO.userError unreachableText)
  | address :: rest => do
    let socket ← TCP.Socket.Client.mk
    try
      socket.connect (socketAddress port address)
      return socket
    catch _ => connectAny port rest

/-- Everything that comes from a socket until its other end closes it. -/
partial def receiveAll (socket : TCP.Socket.Client) (received : ByteArray) : Async ByteArray := do
  match ← socket.recv? 65536 with
  | none => return received
  | some part => receiveAll socket (received ++ part)

/-- Posts a body to a server. -/
def post (endpoint : Url.Endpoint) (body : String) : Async Delivered := do
  try
    let socket ← connectAny endpoint.port.toUInt16 (← addressesOf endpoint.host)
    socket.send (Http.post endpoint body).toUTF8
    let received ← receiveAll socket ByteArray.empty
    match Http.readAnswer? received.data.toList with
    | some (status, body) => return ofHttp status body
    | none => return .error (.transport unreachableText)
  catch _ => return .error (.transport unreachableText)

/-- One attempt at a request, which is given up after `timeout`. -/
def attempt (endpoint? : Option Url.Endpoint) (timeout : Duration) (r : Request) :
    Async Delivered :=
  match endpoint? with
  | none => return .error (.transport unreachableText)
  | some endpoint =>
    Async.race (post endpoint (Http.requestJson 0 r).compact) do
      pass timeout
      return .error (.usage timeoutText)

/-- A request with all the attempts that are made at it. -/
def ask (endpoint? : Option Url.Endpoint) (timeout : Duration) (r : Request) : Async Answer := do
  let report ← callWith {
    attempt := fun _ => attempt endpoint? timeout r
    pause := fun e => pass (pauseAfter e) }
  return answer report.result

/-- Whether a server could be started at a host and a port. -/
def isFree (host : String) (port : Nat) : Async Bool := do
  try
    match ← addressesOf host with
    | [] => return false
    | address :: _ => do
      let server ← TCP.Socket.Server.mk
      server.bind (socketAddress port.toUInt16 address)
      return true
  catch _ => return false

/-- A number drawn at random. -/
def drawNumber : Async Nat := IO.rand 0 (1 <<< 62)

/-- Holds a dialogue with a node. -/
def converse {α : Type} (ask : Request → Async Answer) : Dialogue α → Async α
  | .done a => return a
  | .ask request next => do converse ask (next (← ask request))
  | .wait span next => do
    pass span
    converse ask next
  | .draw next => do converse ask (next (← drawNumber))

end SmartAccount.Connection
