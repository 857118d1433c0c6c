import SmartAccount.Abi.Codec
/-!
# Functions of a contract

A function is known on the chain by its selector, the first four bytes of the hash of its
signature. Call data is the selector followed by the encoded arguments.
-/

namespace SmartAccount.Contract

open Abi

/-- What a function may do to the chain. -/
inductive Mutability where
  | pure
  | view
  | nonpayable
  | payable
  deriving DecidableEq, Repr

def Mutability.name : Mutability → String
  | .pure => "pure"
  | .view => "view"
  | .nonpayable => "nonpayable"
  | .payable => "payable"

/-- A function of a contract. -/
structure Function where
  name : String
  inputs : Fields
  outputs : Fields
  mutability : Mutability
  deriving DecidableEq, Repr

namespace Function

def signature (f : Function) : String := f.name ++ f.inputs.signature

/-- The four bytes that select the function. -/
def selector (f : Function) : Bytes := (Keccak.hash (textBytes f.signature)).take 4

/-- Call data for the function. -/
def encodeCall (f : Function) (args : f.inputs.Value) : Bytes := f.selector ++ f.inputs.encode args

/-- What returned data says. -/
def decodeReturn (f : Function) (validate : Bool) (data : Bytes) :
    Except DecodeError f.outputs.Value :=
  f.outputs.decode validate data

end Function

/-- A function with arguments for it. -/
structure Invocation where
  function : Function
  args : function.inputs.Value

namespace Invocation

def encode (i : Invocation) : Bytes := i.function.encodeCall i.args

/-- The invocation of one of the functions that call data holds. -/
def decode (functions : List Function) (validate : Bool) (data : Bytes) :
    Except DecodeError Invocation :=
  if data.length < 4 then .error .typeCheckFail
  else
    match functions.find? (·.selector = data.take 4) with
    | none => .error .unknownSelector
    | some f => do return ⟨f, ← f.inputs.decode validate (data.drop 4)⟩

end Invocation

end SmartAccount.Contract
