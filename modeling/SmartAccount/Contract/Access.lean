import SmartAccount.Chain.Reader
import SmartAccount.Contract.Interface
/-!
# Reaching a contract

A function of a deployed contract is read by a call that changes nothing, or executed by a
transaction. Both carry the call data of the function to the address of the contract.
-/

namespace SmartAccount.Contract

open Abi

/-- A transaction to a contract, before it is sent. -/
structure Transaction where
  recipient : Address
  input : Bytes
  /-- The wei that go with it, if any are to. -/
  value : Option Word := none
  deriving DecidableEq

/-- The members by which a call and a transaction say what they carry where. -/
def carriage (recipient : Address) (input : Bytes) : List (String × Json) :=
  [("input", .hex input), ("to", .address recipient)]

namespace Function

/-- Calls the function of the contract at an address and reads what it returns. The caller is
left open unless one is named. -/
def read (f : Function) (contract : Address) (args : f.inputs.Value)
    (caller : Option Address := none) : Exchange f.outputs.Value := do
  let call := (caller.toList.map fun a => ("from", Json.address a))
    ++ carriage contract (f.encodeCall args)
  let data ← Exchange.request "eth_call" (some [.record call, .string "latest"]) Json.bytes?
  match f.decodeReturn false data with
  | .ok value => return value
  | .error cause => throw (if data.isEmpty then .noData f.name else .undecodable cause)

/-- The transaction that executes the function. -/
def transaction (f : Function) (contract : Address) (args : f.inputs.Value)
    (value : Option Word := none) : Transaction :=
  ⟨contract, f.encodeCall args, value⟩

end Function

/-- Leaves it to the node to sign a transaction and send it. The answer is its hash. -/
def Transaction.sendByNode (t : Transaction) : Exchange Hash :=
  .request "eth_sendTransaction" (some [.record (carriage t.recipient t.input
    ++ ("type", .string "0x2") :: t.value.toList.map fun v => ("value", Json.quantity v))])
    Json.hash?

end SmartAccount.Contract
