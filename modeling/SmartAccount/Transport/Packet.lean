import SmartAccount.Rpc.Error
import SmartAccount.Json.Scalar
/-!
# What a server sends back

An answer that gets through holds one payload, or several where several requests were sent
together. A payload is a result or an error of the node.
-/

namespace SmartAccount

/-- The answer to one request. -/
inductive Payload where
  | success (value : Json)
  | failure (code : Int) (message : String) (data : Option Json)

/-- The answer to one request or to a batch of them. -/
inductive Packet where
  | single (payload : Payload)
  | batch (payloads : List Payload)

/-- What an attempt to send comes to. -/
abbrev Delivered := Except RpcError Packet

namespace Payload

/-- The payload as the answer to a request. -/
def answer : Payload → Except RpcError Json
  | .success value => .ok value
  | .failure code message data => .error (.refused code message data)

/-- The integer that a number writes. -/
def integer? : Json → Option Int
  | .number literal =>
    match literal.toList with
    | '-' :: digits => (Json.unsigned? (.number (String.ofList digits))).map fun n => -(n : Int)
    | _ => (Json.unsigned? (.number literal)).map fun n => (n : Int)
  | _ => none

/-- The error that an object describes. -/
def failure? (j : Json) : Option Payload := do
  let code ← j.get? "code" >>= integer?
  return .failure code ((j.get? "message" >>= Json.string?).getD "") (j.get? "data")

/-- The payload in the body of an answer. -/
def ofBody? (body : Json) : Option Payload :=
  match body.get? "error" with
  | some e => failure? e
  | none => (body.get? "result").map .success

end Payload

/-- The first error in a packet, if there is one. -/
def Packet.error? (p : Packet) : Option RpcError :=
  let payloads := match p with
    | .single payload => [payload]
    | .batch payloads => payloads
  payloads.findSome? fun payload =>
    match payload with
    | .success _ => none
    | .failure code message data => some (.refused code message data)

/-- The error that an attempt ended with, if any: none got through, or a payload is one. -/
def Delivered.error? : Delivered → Option RpcError
  | .error e => some e
  | .ok packet => packet.error?

end SmartAccount
