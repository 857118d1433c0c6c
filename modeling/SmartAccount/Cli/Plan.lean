import SmartAccount.Cli.Invocation
import SmartAccount.Context
import SmartAccount.Contract.Document
import SmartAccount.Signer.Sender
import SmartAccount.Url.Syntax
import SmartAccount.UserOperation.Json
import SmartAccount.Watcher.Watch
/-!
# What a command does

A command is a dialogue with the node that prints lines on its way and ends well or with an error.
What it asks the node without printing anything is a `Fetch`, and may stand anywhere in a `Task`.
Watching events has no end of its own; it is left to a watch.
-/

namespace SmartAccount.Cli

open Contract

/-- What a command sees of the machine it runs on. -/
structure Machine where
  /-- The text of a file, if it can be read. -/
  readFile : String → Option String
  /-- Whether the metrics can be served on a host and a port. -/
  canServe : String → Nat → Bool

/-- A dialogue that ends with a result or with the text of an error. -/
abbrev Fetch := ExceptT String Dialogue

/-- A dialogue that prints lines as it goes. What was printed before an error stays printed. -/
abbrev Task := ExceptT String (StateT (List String) Dialogue)

/-- What is fetched on the way prints nothing. -/
def silently {α : Type} (fetch : Fetch α) : Task α := .mk (StateT.lift fetch.run)

instance : MonadLift Fetch Task := ⟨silently⟩

def printLine (line : String) : Task Unit := modify (· ++ [line])

def printLines (lines : List String) : Task Unit := lines.forM printLine

/-- What a command does. -/
inductive Plan where
  /-- Talks to the node and prints lines. -/
  | print (task : Task Unit)
  /-- Prints events as they come, starting at a block or after the head of the chain. -/
  | watch (settings : WatchSettings) (subject : Subject) (first : Option BlockNumber)

/-- The text of an error of the chain. -/
def errorText : ProviderError → String
  | .rpc (.malformed _) => "deserialization error"
  | .undecodable _ => "Contract Error: ABI error"
  | e => e.message?.getD ""

/-- An operation on the chain as a part of a task; its error is reported as it is. -/
def reported {α : Type} (exchange : Exchange α) : Fetch α :=
  .mk ((·.mapError errorText) <$> exchange.run)

/-- An operation on the chain whose error is put into a context. Of the error in its context, the
command reports the context; what the operator reads about it is left out. -/
def during {α : Type} (context : String) (exchange : Exchange α) : Fetch α :=
  .mk ((fun result => (inContext (fun _ => context) result).mapError (·.context)) <$> exchange.run)

/-- How many wei make one ether. -/
def weiPerEther : Nat := 1000000000000000000

/-- An amount of wei in ether, with all 18 places. -/
def etherText (amount : Word) : String :=
  let places := Nat.toDigits 10 (amount.toNat % weiPerEther)
  Numeral.decimal (amount.toNat / weiPerEther) ++ "."
    ++ String.ofList (List.replicate (18 - places.length) '0' ++ places)

def transactionLine (hash : Hash) : String := "Transaction: " ++ hash.text

/-- Sends a transaction and prints its hash. -/
def sending (sender : Sender) (t : Transaction) : Task Unit := do
  let hash ← reported (sender.send t)
  printLine (transactionLine hash)

/-! ## The commands -/

def accountLines (a : Account) (owner entryPoint : Address) (nonce deposit : Word) :
    List String :=
  ["Account:     " ++ a.address.text ++ " (" ++ a.kind.contract.name ++ ")",
    "Owner:       " ++ owner.text, "Entry point: " ++ entryPoint.text,
    "Nonce:       " ++ Numeral.decimal nonce.toNat,
    "Deposit:     " ++ etherText deposit ++ " ETH"]

def accountInfo (a : Account) : Task Unit := do
  let owner ← during "failed to get owner" a.owner
  let entryPoint ← during "failed to get entry point" a.entryPoint
  let nonce ← during "failed to get nonce" a.nonce
  let deposit ← during "failed to get deposit" a.deposit
  printLines (accountLines a owner entryPoint nonce deposit)

/-- Call data for one call, or for a batch of several. -/
def callDataOf (a : Account) : List Call → Bytes
  | [call] => a.executeCallData call
  | calls => a.executeBatchCallData calls

def AccountCommand.task (a : Account) (sender : Sender) : AccountCommand → Task Unit
  | .info => accountInfo a
  | .execute call => sending sender (a.execute call)
  | .executeBatch calls => sending sender (a.executeBatch calls)
  | .callData calls => printLine (Hex.text (callDataOf a calls))
  | .deposit value => sending sender (a.addDeposit value)
  | .withdraw recipient amount => sending sender (a.withdrawDepositTo recipient amount)
  | .setOwner owner =>
    match a.kind with
    | .account => sending sender (a.setOwner owner)
    | .wallet => throw "initialize is only supported by a-account"
  | .transferOwnership newOwner =>
    match a.kind with
    | .wallet => sending sender (a.transferOwnership newOwner)
    | .account => throw "transfer-ownership is only supported by aa-wallet"

def factoryLines (f : Factory) (implementation entryPoint owner : Address) : List String :=
  ["Factory:        " ++ f.address.text, "Implementation: " ++ implementation.text,
    "Entry point:    " ++ entryPoint.text, "Owner:          " ++ owner.text]

def factoryInfo (f : Factory) : Task Unit := do
  let implementation ← during "failed to get account implementation" f.accountImplementation
  let entryPoint ← during "failed to get entry point" f.entryPoint
  let owner ← during "failed to get owner" f.owner
  printLines (factoryLines f implementation entryPoint owner)

def accountAddressLines (account : Address) (deployed : Bool) : List String :=
  ["Account:  " ++ account.text, "Deployed: " ++ toString deployed]

def factoryAccountAddress (f : Factory) (owner : Address) (salt : Word) : Task Unit := do
  let account ← reported (f.accountAddress owner salt)
  let deployed ← reported (f.isAccount account)
  printLines (accountAddressLines account deployed)

def FactoryCommand.task (f : Factory) (sender : Sender) : FactoryCommand → Task Unit
  | .info => factoryInfo f
  | .accountAddress owner salt => factoryAccountAddress f owner salt
  | .initCode owner salt => printLine (Hex.text (f.initCode owner salt))
  | .createAccount owner salt => sending sender (f.createAccount owner salt)
  | .addStake delay value => sending sender (f.addStake delay value)
  | .unlockStake => sending sender f.unlockStake
  | .withdrawStake recipient => sending sender (f.withdrawStake recipient)

/-- The means of a query that talks to the node. What it would tell the operator is left out. -/
def queryMeans : Query.Means Dialogue ProviderError where
  ask filter := (Chain.logs filter).run
  wait span := .wait span (.done ())
  draw := .draw .done
  tell _ := .done ()
  shown := errorText

/-- The last block that a query is for: the head of the chain where none is named. -/
def lastBlock : Option BlockNumber → Fetch BlockNumber
  | some last => pure last
  | none => reported Chain.headNumber

/-- Prints the events in a range of blocks, a line for each. -/
def queryEvents (settings : WatchSettings) (subject : Subject) (first : BlockNumber)
    (last : Option BlockNumber) : Task Unit := do
  let last ← lastBlock last
  match ← silently (.lift (Query.runRange queryMeans settings subject first last)) with
  | .found events => printLines (events.map (·.display))
  | .failed e => throw (errorText e)
  | .brokenDown cause => throw cause.message

/-- A packed user operation as it is printed: over several lines, its keys in order. -/
def packedText (p : PackedUserOperation) : String := p.toJson.sorted.pretty

/-! ## From invocations to plans -/

/-- Who sends transactions for these settings; an error if there is a key that is none, or if
the URL of the node is none. -/
def Settings.sender (s : Settings) : Except String Sender := do
  let sender ← match s.privateKey with
    | none => pure Sender.nobody
    | some text =>
      match PrivateKey.parse? text with
      | some key => pure (Sender.holder key)
      | none => throw PrivateKey.malformed
  if Url.isUrl s.nodeUrl then return sender
  else throw "provider should be created from node_http"

/-- Whether a text is the numeric address of a host, in brackets if it has eight pieces. -/
def isNumericHost (host : String) : Bool :=
  match host.toList with
  | '[' :: rest => rest.getLast? = some ']' && Url.isEightPieces rest.dropLast
  | cs => Url.isDotted cs

/-- Whether the metrics can be served as the settings ask: nothing is asked for without a port;
else the host has to be an address, and the machine has to have it free. -/
def Settings.serveMetrics (s : Settings) (machine : Machine) : Except String Unit :=
  match s.metricsPort with
  | none => .ok ()
  | some port =>
    if !isNumericHost s.metricsHost then .error "invalid socket address syntax"
    else if !machine.canServe s.metricsHost port then .error "metrics server should start"
    else .ok ()

/-- The file that a command reads, if it reads one. -/
def Command.file? : Command → Option String
  | .userOp file _ => some file
  | _ => none

/-- The user operation that a file holds. -/
def readUserOp (machine : Machine) (file : String) : Except String UserOperation :=
  match machine.readFile file with
  | none => .error ("failed to read " ++ file)
  | some text =>
    match UserOperation.ofJsonText? text with
    | none => .error (file ++ " should hold a user operation")
    | some op => .ok op

/-- The chain that an operation is for: that of the node where none is named. -/
def chainIdFor (settings : Settings) : Option (BitVec 64) → Fetch (BitVec 64)
  | some id => pure id
  | none => do
    let _ ← ExceptT.mk (pure settings.sender)
    reported Chain.chainId

def UserOpCommand.task (settings : Settings) (op : UserOperation) : UserOpCommand → Task Unit
  | .pack => printLine (packedText op.pack)
  | .hash entryPoint chainId => do
    let chainId ← chainIdFor settings chainId
    printLine (op.hash entryPoint chainId).text

/-- What a command does with these settings. -/
def Command.plan (settings : Settings) (machine : Machine) : Command → Except String Plan
  | .showAbi kind => return .print (printLine kind.interface.documentText)
  | .listSelectors kind => return .print (printLines kind.interface.selectorLines)
  | .account kind address command => do
    let isCallData := match command with
      | .callData _ => true
      | _ => false
    if address.isNone && !isCallData then throw "--address is required"
    let sender ← settings.sender
    match AccountKind.ofContract? kind with
    | none => throw "account-manager is not an account, use the manager command"
    | some kind => return .print (command.task ⟨kind, address.getD 0⟩ sender)
  | .factory address command => do
    let sender ← settings.sender
    return .print (command.task ⟨address⟩ sender)
  | .events interval range command => do
    let watchSettings : WatchSettings := { pollInterval := interval, maxBlockRange := range }
    let _ ← settings.sender
    match command with
    | .query kind address first last =>
      return .print (queryEvents watchSettings ⟨kind.interface, address⟩ first last)
    | .watch kind address first =>
      return .watch watchSettings ⟨kind.interface, address⟩ first
  | .userOp file command => do
    let op ← readUserOp machine file
    return .print (command.task settings op)

/-- What an invocation does. -/
def Invocation.plan (machine : Machine) (i : Invocation) : Except String Plan := do
  i.settings.serveMetrics machine
  i.command.plan i.settings machine

/-- How many events wait at most to be printed. -/
def watchCapacity : Nat := 1024

end SmartAccount.Cli
