import SmartAccount.Contract.Function
import SmartAccount.Contract.Event
import SmartAccount.Call
import SmartAccount.UserOperation.Basic
/-!
# The three contracts

The account, the wallet and the account factory, each with the functions and events that its
interface declares. A function that two contracts declare alike is one definition here, so both
give it the same call data.
-/

namespace SmartAccount.Contract

open Abi

/-- What is known of a contract beside its code. -/
structure Interface where
  name : String
  /-- The parameters of the constructor, if it has any. -/
  deployment : Option Fields
  /-- Whether the contract accepts plain transfers. -/
  receives : Bool
  functions : List Function
  events : List Event
  /-- The first topics by which a node is asked for the events. -/
  topics : List Hash

/-- The fields of a call. -/
def callFields : Fields := .ofList [("target", .address), ("value", .uint256), ("data", .bytes)]

/-- The struct of a call. -/
def callType : Ty := .tuple "Call" callFields

/-- The fields of a packed user operation. -/
def packedFields : Fields := .ofList
  [("sender", .address), ("nonce", .uint256), ("initCode", .bytes), ("callData", .bytes),
    ("accountGasLimits", .bytes32), ("preVerificationGas", .uint256), ("gasFees", .bytes32),
    ("paymasterAndData", .bytes), ("signature", .bytes)]

/-- The struct of a packed user operation. -/
def packedType : Ty := .tuple "PackedUserOperation" packedFields

/-- A call as a value of its struct. -/
def callValue (c : Call) : callFields.Value := (c.target, c.value, c.data, ())

def callOfValue : callFields.Value → Call
  | (target, value, data, ()) => ⟨target, value, data⟩

/-- A packed user operation as a value of its struct. -/
def packedValue (p : PackedUserOperation) : packedFields.Value :=
  (p.sender, p.nonce, p.initCode, p.callData, p.accountGasLimits, p.preVerificationGas, p.gasFees,
    p.paymasterAndData, p.signature, ())

def packedOfValue : packedFields.Value → PackedUserOperation
  | (sender, nonce, initCode, callData, accountGasLimits, preVerificationGas, gasFees,
      paymasterAndData, signature, ()) =>
    { sender := sender, nonce := nonce, initCode := initCode, callData := callData
      accountGasLimits := accountGasLimits, preVerificationGas := preVerificationGas
      gasFees := gasFees, paymasterAndData := paymasterAndData, signature := signature }

namespace Function

/-- A function that only reads and returns one value. -/
def reading (name : String) (inputs : Fields) (declared : String) (type : Ty) : Function :=
  ⟨name, inputs, .cons "" declared type .nil, .view⟩

/-- A function that changes the chain and returns nothing. -/
def acting (name : String) (inputs : Fields) : Function := ⟨name, inputs, .nil, .nonpayable⟩

/-- A function that takes wei and returns nothing. -/
def paying (name : String) (inputs : Fields) : Function := ⟨name, inputs, .nil, .payable⟩

def entryPoint : Function := reading "entryPoint" .nil "contract IEntryPoint" .address
def owner : Function := reading "owner" .nil "address" .address
def getNonce : Function := reading "getNonce" .nil "uint256" .uint256
def getDeposit : Function := reading "getDeposit" .nil "uint256" .uint256
def initializeOwner : Function := acting "initialize" (.ofList [("anOwner", .address)])

def execute : Function :=
  acting "execute" (.ofList [("dest", .address), ("value", .uint256), ("func", .bytes)])

def executeBatch : Function := acting "executeBatch" (.ofList [("calls", .array callType)])

def validateUserOp : Function where
  name := "validateUserOp"
  inputs := .ofList
    [("userOp", packedType), ("userOpHash", .bytes32), ("missingAccountFunds", .uint256)]
  outputs := .ofList [("validationData", .uint256)]
  mutability := .nonpayable

def transferOwnership : Function := acting "transferOwnership" (.ofList [("newOwner", .address)])
def addDeposit : Function := paying "addDeposit" .nil

def withdrawDepositTo : Function :=
  acting "withdrawDepositTo"
    (.cons "withdrawAddress" "address payable" .address (.ofList [("amount", .uint256)]))

def isValidSignature : Function :=
  reading "isValidSignature" (.ofList [("hash", .bytes32), ("signature", .bytes)]) "bytes4" .bytes4

def supportsInterface : Function :=
  reading "supportsInterface" (.ofList [("interfaceId", .bytes4)]) "bool" .bool

def accountImplementation : Function :=
  reading "accountImplementation" .nil "contract AAccount" .address

def createAccount : Function where
  name := "createAccount"
  inputs := .ofList [("owner", .address), ("salt", .uint256)]
  outputs := .cons "ret" "contract AAccount" .address .nil
  mutability := .nonpayable

def getAddress : Function :=
  reading "getAddress" (.ofList [("owner", .address), ("salt", .uint256)]) "address" .address

def isAccount : Function := reading "isAccount" (.ofList [("account", .address)]) "bool" .bool
def addStake : Function := paying "addStake" (.ofList [("unstakeDelaySec", .uint32)])
def unlockStake : Function := acting "unlockStake" .nil

def withdrawStake : Function :=
  acting "withdrawStake" (.cons "withdrawAddress" "address payable" .address .nil)

end Function

namespace Event

def accountInitialized : Event where
  name := "AccountInitialized"
  fields := .indexed "entryPoint" "contract IEntryPoint" .address
    (.indexed "owner" "address" .address .nil)

def initialized : Event := ⟨"Initialized", .plain "version" "uint64" .uint64 .nil⟩
def upgraded : Event := ⟨"Upgraded", .indexed "implementation" "address" .address .nil⟩

def ownershipTransferred : Event where
  name := "OwnershipTransferred"
  fields := .indexed "previousOwner" "address" .address
    (.indexed "newOwner" "address" .address .nil)

def executed : Event where
  name := "Executed"
  fields := .indexed "target" "address" .address
    (.plain "value" "uint256" .uint256 (.plain "data" "bytes" .bytes .nil))

def received : Event where
  name := "Received"
  fields := .indexed "sender" "address" .address (.plain "amount" "uint256" .uint256 .nil)

def accountCreated : Event where
  name := "AccountCreated"
  fields := .indexed "account" "address" .address
    (.indexed "owner" "address" .address (.plain "salt" "uint256" .uint256 .nil))

end Event

/-- The smart contract account. -/
def aAccount : Interface where
  name := "AAccount"
  deployment := none
  receives := true
  functions := [.entryPoint, .owner, .getNonce, .getDeposit, .initializeOwner, .execute,
    .executeBatch, .validateUserOp, .addDeposit, .withdrawDepositTo, .isValidSignature,
    .supportsInterface]
  events := [.accountInitialized, .initialized, .upgraded]
  topics := [Event.accountInitialized.topic, Event.initialized.topic, Event.upgraded.topic]

/-- The smart contract wallet. -/
def aaWallet : Interface where
  name := "AAWallet"
  deployment := none
  receives := true
  functions := [.entryPoint, .owner, .getNonce, .getDeposit, .execute, .executeBatch,
    .validateUserOp, .transferOwnership, .addDeposit, .withdrawDepositTo, .isValidSignature]
  events := [.ownershipTransferred, .executed, .received]
  topics := [Event.ownershipTransferred.topic, Event.executed.topic, Event.received.topic]

/-- The factory that deploys accounts. -/
def accountManager : Interface where
  name := "AccountManager"
  deployment := some
    (.cons "_entryPoint" "contract IEntryPoint" .address (.ofList [("_owner", .address)]))
  receives := false
  functions := [.accountImplementation, .entryPoint, .owner, .createAccount, .getAddress,
    .isAccount, .addStake, .unlockStake, .withdrawStake]
  events := [.accountCreated, .ownershipTransferred]
  topics := [Event.accountCreated.topic, Event.ownershipTransferred.topic]

/-- What `isValidSignature` returns for a valid signature. -/
def validSignature : BitVec 32 := 0x1626ba7e

/-- The kinds of contract. -/
inductive Kind where
  | aAccount
  | aaWallet
  | accountManager
  deriving DecidableEq, Repr

namespace Kind

def all : List Kind := [.aAccount, .aaWallet, .accountManager]

def interface : Kind → Interface
  | .aAccount => Contract.aAccount
  | .aaWallet => Contract.aaWallet
  | .accountManager => Contract.accountManager

/-- The name of the kind on the command line and in JSON. -/
def name : Kind → String
  | .aAccount => "a-account"
  | .aaWallet => "aa-wallet"
  | .accountManager => "account-manager"

/-- The kind of a name. -/
def ofName? (name : String) : Option Kind := all.find? (·.name = name)

/-- What is said of a name that no kind has. -/
def unknownName : String := "Matching variant not found"

/-- A kind in JSON: its name, or an object with its name as the only key and `null` there. -/
def ofJson? : Json → Option Kind
  | .str (some name) => ofName? name
  | .object [(some name, .null)] => ofName? name
  | _ => none

end Kind

end SmartAccount.Contract
