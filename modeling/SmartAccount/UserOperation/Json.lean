import SmartAccount.UserOperation.Basic
import SmartAccount.Json.Reader
import SmartAccount.Json.Scalar
import SmartAccount.Json.Record
/-!
# The JSON forms of a user operation

The operation itself is written with camel-case keys in a fixed order, without a factory or a
paymaster that is absent, and read from an object with its members in any order or from an array
of all fields. The packed form is only written.
-/

namespace SmartAccount

namespace UserOperation

/-- The keys of the JSON form, in the order they are written. -/
def fieldNames : List String :=
  ["sender", "nonce", "factory", "factoryData", "callData", "callGasLimit",
    "verificationGasLimit", "preVerificationGas", "maxPriorityFeePerGas", "maxFeePerGas",
    "paymaster", "paymasterVerificationGasLimit", "paymasterPostOpGasLimit", "paymasterData",
    "signature"]

/-- The member of an address that may be absent, which then has no member. -/
def optionalMember (key : String) : Option Address → List (String × Json)
  | none => []
  | some a => [(key, .address a)]

def toJson (op : UserOperation) : Json :=
  .record <|
    [("sender", .address op.sender), ("nonce", .quantity op.nonce)]
      ++ optionalMember "factory" op.factory
      ++ [("factoryData", .hex op.factoryData), ("callData", .hex op.callData),
        ("callGasLimit", .quantity op.callGasLimit),
        ("verificationGasLimit", .quantity op.verificationGasLimit),
        ("preVerificationGas", .quantity op.preVerificationGas),
        ("maxPriorityFeePerGas", .quantity op.maxPriorityFeePerGas),
        ("maxFeePerGas", .quantity op.maxFeePerGas)]
      ++ optionalMember "paymaster" op.paymaster
      ++ [("paymasterVerificationGasLimit", .quantity op.paymasterVerificationGasLimit),
        ("paymasterPostOpGasLimit", .quantity op.paymasterPostOpGasLimit),
        ("paymasterData", .hex op.paymasterData), ("signature", .hex op.signature)]

/-- An operation from its JSON form. Factory and paymaster may be missing or `null`; their data
and gas limits may be missing; everything else is required. -/
def ofJson? (j : Json) : Option UserOperation := do
  match ← j.record? fieldNames with
  | [sender, nonce, factory, factoryData, callData, callGasLimit, verificationGasLimit,
      preVerificationGas, maxPriorityFeePerGas, maxFeePerGas, paymaster,
      paymasterVerificationGasLimit, paymasterPostOpGasLimit, paymasterData, signature] =>
    some {
      sender := ← Json.required? Json.address? sender
      nonce := ← Json.required? (Json.bits? 256) nonce
      factory := ← Json.defaulted? none (Json.nullable? Json.address?) factory
      factoryData := ← Json.defaulted? [] Json.bytes? factoryData
      callData := ← Json.required? Json.bytes? callData
      callGasLimit := ← Json.required? (Json.bits? 128) callGasLimit
      verificationGasLimit := ← Json.required? (Json.bits? 128) verificationGasLimit
      preVerificationGas := ← Json.required? (Json.bits? 256) preVerificationGas
      maxPriorityFeePerGas := ← Json.required? (Json.bits? 128) maxPriorityFeePerGas
      maxFeePerGas := ← Json.required? (Json.bits? 128) maxFeePerGas
      paymaster := ← Json.defaulted? none (Json.nullable? Json.address?) paymaster
      paymasterVerificationGasLimit :=
        ← Json.defaulted? 0 (Json.bits? 128) paymasterVerificationGasLimit
      paymasterPostOpGasLimit := ← Json.defaulted? 0 (Json.bits? 128) paymasterPostOpGasLimit
      paymasterData := ← Json.defaulted? [] Json.bytes? paymasterData
      signature := ← Json.required? Json.bytes? signature }
  | _ => none

/-- An operation from JSON text. -/
def ofJsonText? (text : String) : Option UserOperation := (Json.parse? text).bind ofJson?

end UserOperation

/-- The packed form as a JSON object. -/
def PackedUserOperation.toJson (p : PackedUserOperation) : Json :=
  .record [("sender", .address p.sender), ("nonce", .quantity p.nonce),
    ("initCode", .hex p.initCode), ("callData", .hex p.callData),
    ("accountGasLimits", .word p.accountGasLimits),
    ("preVerificationGas", .quantity p.preVerificationGas), ("gasFees", .word p.gasFees),
    ("paymasterAndData", .hex p.paymasterAndData), ("signature", .hex p.signature)]

end SmartAccount
