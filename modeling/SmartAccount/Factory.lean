import SmartAccount.Contract.Access
/-!
# The factory

The contract that deploys accounts. An account has its address before it is deployed: the
factory computes it from the owner and a salt.
-/

namespace SmartAccount

open Contract

/-- A deployed factory. -/
structure Factory where
  address : Address
  deriving DecidableEq

namespace Factory

/-- The contract that every account of the factory runs. -/
def accountImplementation (f : Factory) : Exchange Address :=
  (·.1) <$> (Function.accountImplementation.read f.address () : Exchange (Address × Unit))

def entryPoint (f : Factory) : Exchange Address :=
  (·.1) <$> (Function.entryPoint.read f.address () : Exchange (Address × Unit))

def owner (f : Factory) : Exchange Address :=
  (·.1) <$> (Function.owner.read f.address () : Exchange (Address × Unit))

/-- The address of the account of an owner, deployed or not. -/
def accountAddress (f : Factory) (owner : Address) (salt : Word) : Exchange Address :=
  (·.1) <$> (Function.getAddress.read f.address (owner, salt, ()) : Exchange (Address × Unit))

/-- Whether the factory deployed the account at an address. -/
def isAccount (f : Factory) (account : Address) : Exchange Bool :=
  (·.1) <$> (Function.isAccount.read f.address (account, ()) : Exchange (Bool × Unit))

/-- Call data to deploy an account. -/
def createAccountCallData (_ : Factory) (owner : Address) (salt : Word) : Bytes :=
  Function.createAccount.encodeCall (owner, salt, ())

/-- The init code that a user operation carries to have its account deployed first. -/
def initCode (f : Factory) (owner : Address) (salt : Word) : Bytes :=
  f.address.bytes ++ f.createAccountCallData owner salt

/-! ## Transactions -/

def createAccount (f : Factory) (owner : Address) (salt : Word) : Transaction :=
  Function.createAccount.transaction f.address (owner, salt, ())

/-- Pays into the stake at the entry point, which is then locked for a delay. -/
def addStake (f : Factory) (unstakeDelay : BitVec 32) (value : Word) : Transaction :=
  Function.addStake.transaction f.address (unstakeDelay, ()) value

def unlockStake (f : Factory) : Transaction := Function.unlockStake.transaction f.address ()

def withdrawStake (f : Factory) (recipient : Address) : Transaction :=
  Function.withdrawStake.transaction f.address (recipient, ())

end Factory

end SmartAccount
