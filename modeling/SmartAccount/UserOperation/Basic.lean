import SmartAccount.Word
/-!
# User operations

What an account is asked to do, off the chain (`UserOperation`) and in the packed form that the
entry point takes (`PackedUserOperation`). Packing joins the factory with its data, the paymaster
with its gas limits and data, and two 128-bit amounts into one word; `unpack` takes them apart
again. The hash and the cost of an operation are defined here as well.

An operation is in *normal form* when nothing hangs on an absent factory or paymaster. Packing
forgets exactly what normal form excludes.
-/

namespace SmartAccount

/-- An amount of 128 bits: a gas limit or a fee. -/
abbrev Gas := BitVec 128

/-- A user operation off the chain. -/
structure UserOperation where
  /-- The account that sends the operation. -/
  sender : Address
  nonce : Word
  /-- The factory that deploys the sender, if it is not deployed yet. -/
  factory : Option Address
  factoryData : Bytes
  /-- What the account executes. -/
  callData : Bytes
  callGasLimit : Gas
  verificationGasLimit : Gas
  /-- The gas that is paid outside of the two phases. -/
  preVerificationGas : Word
  maxPriorityFeePerGas : Gas
  maxFeePerGas : Gas
  /-- The paymaster that sponsors the operation, if there is one. -/
  paymaster : Option Address
  paymasterVerificationGasLimit : Gas
  paymasterPostOpGasLimit : Gas
  paymasterData : Bytes
  /-- What the account checks. -/
  signature : Bytes
  deriving DecidableEq, Repr

/-- A user operation as the entry point takes it. -/
structure PackedUserOperation where
  sender : Address
  nonce : Word
  initCode : Bytes
  callData : Bytes
  accountGasLimits : Word
  preVerificationGas : Word
  gasFees : Word
  paymasterAndData : Bytes
  signature : Bytes
  deriving DecidableEq, Repr

/-- What identifies an operation while it is pending. -/
structure UserOperationId where
  sender : Address
  nonce : Word
  deriving DecidableEq, Repr

/-- Identifiers are ordered by sender, and those of one sender by nonce. -/
def UserOperationId.le (a b : UserOperationId) : Bool :=
  decide (a.sender < b.sender) || (decide (a.sender = b.sender) && decide (a.nonce ≤ b.nonce))

/-- Two 128-bit amounts in one word. -/
def Gas.join (high low : Gas) : Word := high ++ low

def Gas.high (w : Word) : Gas := w.extractLsb' 128 128

def Gas.low (w : Word) : Gas := w.extractLsb' 0 128

/-- The 16 bytes of an amount. -/
def Gas.bytes (g : Gas) : Bytes := bytesOfBits 16 g

/-- The amount that 16 bytes write. -/
def Gas.ofBytes (bytes : Bytes) : Gas := BitVec.ofNat 128 (BigEndian.decode bytes)

/-- Why a packed operation cannot be taken apart: a field is too short for what it starts
with. Each cause holds the length. -/
inductive UnpackError where
  | initCodeTooShort (length : Nat)
  | paymasterAndDataTooShort (length : Nat)
  deriving DecidableEq, Repr

def UnpackError.message : UnpackError → String
  | .initCodeTooShort n => "init code too short: " ++ Numeral.decimal n ++ " bytes"
  | .paymasterAndDataTooShort n =>
    "paymaster and data too short: " ++ Numeral.decimal n ++ " bytes"

namespace UserOperation

def id (op : UserOperation) : UserOperationId := ⟨op.sender, op.nonce⟩

/-- The factory in front of its data. -/
def initCode (op : UserOperation) : Bytes :=
  match op.factory with
  | some factory => factory.bytes ++ op.factoryData
  | none => []

/-- The paymaster in front of its two gas limits and its data. -/
def paymasterAndData (op : UserOperation) : Bytes :=
  match op.paymaster with
  | some paymaster =>
    paymaster.bytes ++ Gas.bytes op.paymasterVerificationGasLimit
      ++ Gas.bytes op.paymasterPostOpGasLimit ++ op.paymasterData
  | none => []

/-- The form of the operation that the entry point takes. -/
def pack (op : UserOperation) : PackedUserOperation where
  sender := op.sender
  nonce := op.nonce
  initCode := op.initCode
  callData := op.callData
  accountGasLimits := Gas.join op.verificationGasLimit op.callGasLimit
  preVerificationGas := op.preVerificationGas
  gasFees := Gas.join op.maxPriorityFeePerGas op.maxFeePerGas
  paymasterAndData := op.paymasterAndData
  signature := op.signature

/-- The length of an address. -/
def addressLength : Nat := 20

/-- The length of what stands in front of the data of a paymaster: its address and two gas
limits. -/
def paymasterHeadLength : Nat := 52

/-- The factory and its data that an init code names. -/
def splitInitCode (initCode : Bytes) : Except UnpackError (Option Address × Bytes) :=
  if initCode.isEmpty then .ok (none, [])
  else if initCode.length < addressLength then .error (.initCodeTooShort initCode.length)
  else .ok (some (Address.ofBytes (initCode.take addressLength)), initCode.drop addressLength)

/-- The paymaster, its two gas limits and its data. -/
def splitPaymasterAndData (field : Bytes) :
    Except UnpackError (Option Address × Gas × Gas × Bytes) :=
  if field.isEmpty then .ok (none, 0, 0, [])
  else if field.length < paymasterHeadLength then
    .error (.paymasterAndDataTooShort field.length)
  else
    .ok (some (Address.ofBytes (field.take 20)), Gas.ofBytes ((field.drop 20).take 16),
      Gas.ofBytes ((field.drop 36).take 16), field.drop 52)

/-- The operation that a packed form holds. The init code is looked at first. -/
def unpack (p : PackedUserOperation) : Except UnpackError UserOperation := do
  let (factory, factoryData) ← splitInitCode p.initCode
  let (paymaster, verificationLimit, postOpLimit, paymasterData) ←
    splitPaymasterAndData p.paymasterAndData
  return {
    sender := p.sender
    nonce := p.nonce
    factory := factory
    factoryData := factoryData
    callData := p.callData
    callGasLimit := Gas.low p.accountGasLimits
    verificationGasLimit := Gas.high p.accountGasLimits
    preVerificationGas := p.preVerificationGas
    maxPriorityFeePerGas := Gas.high p.gasFees
    maxFeePerGas := Gas.low p.gasFees
    paymaster := paymaster
    paymasterVerificationGasLimit := verificationLimit
    paymasterPostOpGasLimit := postOpLimit
    paymasterData := paymasterData
    signature := p.signature }

/-- The operation without what hangs on an absent factory or an absent paymaster. -/
def normalize (op : UserOperation) : UserOperation :=
  let op := match op.factory with
    | some _ => op
    | none => { op with factoryData := [] }
  match op.paymaster with
  | some _ => op
  | none => { op with
      paymasterVerificationGasLimit := 0, paymasterPostOpGasLimit := 0, paymasterData := [] }

end UserOperation

/-- The bytes of several words, one after the other. -/
def wordBytes (words : List Word) : Bytes := words.flatMap Word.bytes

namespace PackedUserOperation

/-- The words that the inner hash covers: every field but the signature, the fields of
variable length by their hashes. -/
def hashedWords (p : PackedUserOperation) : List Word :=
  [p.sender.setWidth 256, p.nonce, Hash.of p.initCode, Hash.of p.callData, p.accountGasLimits,
    p.preVerificationGas, p.gasFees, Hash.of p.paymasterAndData]

/-- The hash that the account signs: it binds the operation to an entry point on a chain. -/
def hash (p : PackedUserOperation) (entryPoint : Address) (chainId : BitVec 64) : Hash :=
  Hash.of (wordBytes
    [Hash.of (wordBytes p.hashedWords), entryPoint.setWidth 256, chainId.setWidth 256])

end PackedUserOperation

namespace UserOperation

/-- The hash of the packed form. -/
def hash (op : UserOperation) (entryPoint : Address) (chainId : BitVec 64) : Hash :=
  op.pack.hash entryPoint chainId

/-- The most wei that the operation can cost, modulo `2 ^ 256`. -/
def maxGasCost (op : UserOperation) : Word :=
  op.maxFeePerGas.setWidth 256 *
    (op.preVerificationGas + op.callGasLimit.setWidth 256 + op.verificationGasLimit.setWidth 256
      + op.paymasterVerificationGasLimit.setWidth 256
      + op.paymasterPostOpGasLimit.setWidth 256)

/-- An operation without factory and paymaster. -/
structure RequiredFields where
  sender : Address
  nonce : Word
  callData : Bytes
  callGasLimit : Gas
  verificationGasLimit : Gas
  preVerificationGas : Word
  maxPriorityFeePerGas : Gas
  maxFeePerGas : Gas
  signature : Bytes
  deriving DecidableEq, Repr

/-- One step of building an operation. -/
inductive BuildStep where
  /-- Deploy the sender with a factory. -/
  | factory (factory : Address) (data : Bytes)
  /-- Let a paymaster sponsor the operation. -/
  | paymaster (paymaster : Address) (verificationGasLimit postOpGasLimit : Gas) (data : Bytes)
  deriving DecidableEq, Repr

/-- The operation of the required fields alone. -/
def ofRequired (r : RequiredFields) : UserOperation where
  sender := r.sender
  nonce := r.nonce
  factory := none
  factoryData := []
  callData := r.callData
  callGasLimit := r.callGasLimit
  verificationGasLimit := r.verificationGasLimit
  preVerificationGas := r.preVerificationGas
  maxPriorityFeePerGas := r.maxPriorityFeePerGas
  maxFeePerGas := r.maxFeePerGas
  paymaster := none
  paymasterVerificationGasLimit := 0
  paymasterPostOpGasLimit := 0
  paymasterData := []
  signature := r.signature

/-- The operation after one more step, which replaces an earlier one of its kind. -/
def apply (op : UserOperation) : BuildStep → UserOperation
  | .factory factory data => { op with factory := some factory, factoryData := data }
  | .paymaster paymaster verificationLimit postOpLimit data =>
    { op with
      paymaster := some paymaster
      paymasterVerificationGasLimit := verificationLimit
      paymasterPostOpGasLimit := postOpLimit
      paymasterData := data }

/-- The operation that the required fields and the steps, taken in order, describe. -/
def build (r : RequiredFields) (steps : List BuildStep) : UserOperation :=
  steps.foldl apply (ofRequired r)

end UserOperation

end SmartAccount
