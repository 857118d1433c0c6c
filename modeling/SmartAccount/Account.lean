import SmartAccount.Contract.Access
import SmartAccount.Validation
/-!
# Accounts

A smart contract account that is deployed at an address. Two contracts serve as accounts. They
answer the same questions and take the same transactions in the same encoding; each has a little
more that the other lacks.
-/

namespace SmartAccount

open Contract

/-- The contracts that serve as accounts. -/
inductive AccountKind where
  | account
  | wallet
  deriving DecidableEq, Repr

/-- The contract of a kind of account. -/
def AccountKind.contract : AccountKind → Contract.Kind
  | .account => .aAccount
  | .wallet => .aaWallet

/-- The account that a contract serves as, if it serves as one. -/
def AccountKind.ofContract? : Contract.Kind → Option AccountKind
  | .aAccount => some .account
  | .aaWallet => some .wallet
  | .accountManager => none

/-- A deployed account. -/
structure Account where
  kind : AccountKind
  address : Address
  deriving DecidableEq

namespace Account

def entryPoint (a : Account) : Exchange Address :=
  (·.1) <$> (Function.entryPoint.read a.address () : Exchange (Address × Unit))

def owner (a : Account) : Exchange Address :=
  (·.1) <$> (Function.owner.read a.address () : Exchange (Address × Unit))

def nonce (a : Account) : Exchange Word :=
  (·.1) <$> (Function.getNonce.read a.address () : Exchange (Word × Unit))

def deposit (a : Account) : Exchange Word :=
  (·.1) <$> (Function.getDeposit.read a.address () : Exchange (Word × Unit))

/-- Whether the account accepts a signature for a hash. -/
def isValidSignature (a : Account) (hash : Hash) (signature : Bytes) : Exchange Bool :=
  (·.1 = validSignature) <$>
    (Function.isValidSignature.read a.address (hash, signature, ()) : Exchange (BitVec 32 × Unit))

/-- Whether an account declares an interface. Wallets are not asked. -/
def supportsInterface (a : Account) (interfaceId : BitVec 32) : Exchange Bool :=
  (·.1) <$> (Function.supportsInterface.read a.address (interfaceId, ()) : Exchange (Bool × Unit))

/-- Call data to execute one call. -/
def executeCallData (_ : Account) (call : Call) : Bytes :=
  Function.execute.encodeCall (call.target, call.value, call.data, ())

/-- Call data to execute calls in order. -/
def executeBatchCallData (_ : Account) (calls : List Call) : Bytes :=
  Function.executeBatch.encodeCall (calls.map callValue, ())

/-- Call data to validate a user operation. -/
def validateUserOpCallData (_ : Account) (op : UserOperation) (hash : Hash) (funds : Word) :
    Bytes :=
  Function.validateUserOp.encodeCall (packedValue op.pack, hash, funds, ())

/-- What the account answers when its entry point asks it to validate a user operation. The
entry point is asked for first, and the question is put in its name. -/
def simulateValidation (a : Account) (op : UserOperation) (hash : Hash) (funds : Word) :
    Exchange ValidationData := do
  let entryPoint ← a.entryPoint
  let answer : Word × Unit ←
    Function.validateUserOp.read a.address (packedValue op.pack, hash, funds, ()) entryPoint
  return .ofWord answer.1

/-! ## Transactions -/

def execute (a : Account) (call : Call) : Transaction :=
  Function.execute.transaction a.address (call.target, call.value, call.data, ())

def executeBatch (a : Account) (calls : List Call) : Transaction :=
  Function.executeBatch.transaction a.address (calls.map callValue, ())

/-- Pays into the deposit at the entry point. -/
def addDeposit (a : Account) (value : Word) : Transaction :=
  Function.addDeposit.transaction a.address () value

def withdrawDepositTo (a : Account) (recipient : Address) (amount : Word) : Transaction :=
  Function.withdrawDepositTo.transaction a.address (recipient, amount, ())

/-- Sets the owner of a fresh account. -/
def setOwner (a : Account) (owner : Address) : Transaction :=
  Function.initializeOwner.transaction a.address (owner, ())

/-- Hands a wallet over to a new owner. -/
def transferOwnership (a : Account) (newOwner : Address) : Transaction :=
  Function.transferOwnership.transaction a.address (newOwner, ())

end Account

end SmartAccount
