import SmartAccount.Abi.Codec
import SmartAccount.Json.Basic
/-!
# What can go wrong with a request

A request to the node fails on the way, at the node, or because its answer is not of the right
form. A contract call can fail in two more ways: the address returns nothing, or what it returns
does not decode.
-/

namespace SmartAccount

/-- Why a request has no usable answer. -/
inductive RpcError where
  /-- The node answered with an error. -/
  | refused (code : Int) (message : String) (data : Option Json)
  /-- The node answered with nothing where an answer is needed. -/
  | nullResponse
  /-- The request did not get through. -/
  | transport (text : String)
  /-- The server answered with a status other than success. -/
  | http (status : Nat) (body : String)
  /-- The client gave up on its own account. -/
  | usage (text : String)
  /-- The client cannot do what was asked of it. -/
  | unsupported (feature : String)
  /-- The request cannot be written as JSON. -/
  | unwritable (text : String)
  /-- The answer, which is kept as text, is not of the type of the method. -/
  | malformed (text : String)

/-- The text of an error. A malformed answer has none that is fixed. -/
def RpcError.message? : RpcError → Option String
  | .refused code message data =>
    some ("server returned an error response: error code " ++ Numeral.signed code ++ ": "
      ++ message ++ (data.map fun d => ", data: " ++ d.compact).getD "")
  | .nullResponse =>
    some "server returned a null response when a non-null response was expected"
  | .transport text => some text
  | .http status body =>
    some ("HTTP error " ++ Numeral.decimal status
      ++ if body.isEmpty then " with empty body" else " with body: " ++ body)
  | .usage text => some ("local usage error: " ++ text)
  | .unsupported feature => some ("unsupported feature: " ++ feature)
  | .unwritable text => some ("serialization error: " ++ text)
  | .malformed _ => none

/-- Why an operation on the chain has no result. -/
inductive ProviderError where
  | rpc (error : RpcError)
  /-- The call returned no data at all. -/
  | noData (function : String)
  /-- The call returned data that does not decode. -/
  | undecodable (cause : Abi.DecodeError)
  /-- Anything else. -/
  | other (text : String)

namespace ProviderError

/-- The text of an error, where it is fixed. -/
def message? : ProviderError → Option String
  | .rpc error => error.message?
  | .noData function =>
    some ("Contract Error: contract call to `" ++ function
      ++ "` returned no data (\"0x\"); the called address might not be a contract")
  | .undecodable _ => none
  | .other text => some text

end ProviderError

end SmartAccount
