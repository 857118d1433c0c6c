import SmartAccount.Account
import SmartAccount.Cli.Grammar
import SmartAccount.Cli.Telemetry
import SmartAccount.Factory
import SmartAccount.Watcher.Query
/-!
# Invocations

What the command line can be asked for: the commands with their arguments, and the settings that
hold for all of them. The grammar says how they are written.
-/

namespace SmartAccount.Cli

/-- What to do with an account. -/
inductive AccountCommand where
  | info
  | execute (call : Call)
  | executeBatch (calls : List Call)
  | callData (calls : List Call)
  | deposit (value : Word)
  | withdraw (recipient : Address) (amount : Word)
  | setOwner (owner : Address)
  | transferOwnership (newOwner : Address)

/-- What to do with the factory. -/
inductive FactoryCommand where
  | info
  | accountAddress (owner : Address) (salt : Word)
  | initCode (owner : Address) (salt : Word)
  | createAccount (owner : Address) (salt : Word)
  | addStake (unstakeDelay : BitVec 32) (value : Word)
  | unlockStake
  | withdrawStake (recipient : Address)

/-- What to do with events. -/
inductive EventsCommand where
  | query (kind : Contract.Kind) (address : Address) (first : BlockNumber)
      (last : Option BlockNumber)
  | watch (kind : Contract.Kind) (address : Address) (first : Option BlockNumber)

/-- What to do with a user operation. -/
inductive UserOpCommand where
  | pack
  | hash (entryPoint : Address) (chainId : Option (BitVec 64))

inductive Command where
  | showAbi (kind : Contract.Kind)
  | listSelectors (kind : Contract.Kind)
  | account (kind : Contract.Kind) (address : Option Address) (command : AccountCommand)
  | factory (address : Address) (command : FactoryCommand)
  | events (pollInterval : Duration) (maxBlockRange : BitVec 64) (command : EventsCommand)
  | userOp (file : String) (command : UserOpCommand)

/-- What holds for every command. -/
structure Settings where
  nodeUrl : String
  timeout : Duration
  privateKey : Option String
  metricsPort : Option Nat
  metricsHost : String
  metricsLabels : List (String × String)
  logFile : Option String

structure Invocation where
  settings : Settings
  command : Command

/-- The address of the entry point that most chains have. -/
def standardEntryPoint : Address := 0x0000000071727de22e5e9d8baf0edac6f37da032

/-! ## The grammar -/

/-- An integer of `width` bits. One of fewer than 64 bits is read as a signed number within its
bounds, so zero may have a minus sign. -/
def integerOf? (width : Nat) (text : String) : Option (BitVec width) :=
  match text.toList with
  | '-' :: c :: rest => if width < 64 && (c :: rest).all (· = '0') then some 0 else none
  | _ => Numeral.plainBounded? width text

def isInteger (width : Nat) (text : String) : Bool := (integerOf? width text).isSome
def isAmount (text : String) : Bool := (Numeral.bounded? 256 text).isSome
def isAddress (text : String) : Bool := (Address.parse? text).isSome
def isKind (text : String) : Bool := (Contract.Kind.ofName? text).isSome
def isCall (text : String) : Bool := (Call.parse text).toBool

/-- An option with a checked value. -/
def option (name : String) (accepts : String → Bool) (isRequired : Bool := false) : OptionSpec :=
  { name := name, accepts := accepts, isRequired := isRequired }

/-- An option that may stand after the commands below, with a variable for its value. -/
def setting (name environment : String) (accepts : String → Bool := fun _ => true) : OptionSpec :=
  { name := name, accepts := accepts, isGlobal := true, environment := some environment }

/-- The options of all commands. -/
def commonOptions : List OptionSpec := [
  setting "node_http" "NODE_HTTP",
  setting "provider_client_timeout_seconds" "PROVIDER_CLIENT_TIMEOUT_SECONDS" (isInteger 64),
  setting "signer.private_key" "SIGNER_PRIVATE_KEY",
  setting "metrics.port" "METRICS_PORT" (isInteger 16),
  setting "metrics.host" "METRICS_HOST",
  { setting "metrics.tags" "METRICS_TAGS" with repeats := true },
  setting "log.file" "LOG_FILE",
  { setting "log.json" "LOG_JSON" (fun text => text = "true" || text = "false") with
    takesValue := false }]

/-- A command that takes options only. -/
def plainLeaf (options : List OptionSpec) : Grammar := .leaf options {}

/-- A command that takes one value or, where `many` says so, several. -/
def valueLeaf (options : List OptionSpec) (accepts : String → Bool) (many : Bool := false) :
    Grammar :=
  .leaf options ⟨1, if many then none else some 1, accepts⟩

def abiGrammar : Grammar := .group []
  [("show", valueLeaf [] isKind), ("selectors", valueLeaf [] isKind)]

def accountGrammar : Grammar := .group
  [{ option "kind" isKind with isGlobal := true },
    { option "address" isAddress with isGlobal := true }]
  [("info", plainLeaf []), ("execute", valueLeaf [] isCall),
    ("execute-batch", valueLeaf [] isCall true), ("call-data", valueLeaf [] isCall true),
    ("deposit", plainLeaf [option "value" isAmount true]),
    ("withdraw", plainLeaf [option "to" isAddress true, option "amount" isAmount true]),
    ("initialize", plainLeaf [option "owner" isAddress true]),
    ("transfer-ownership", plainLeaf [option "new_owner" isAddress true])]

def factoryGrammar : Grammar :=
  let accountOptions := [option "owner" isAddress true, option "salt" isAmount]
  .group [option "address" isAddress true]
    [("info", plainLeaf []), ("get-address", plainLeaf accountOptions),
      ("init-code", plainLeaf accountOptions), ("create-account", plainLeaf accountOptions),
      ("add-stake", plainLeaf [option "unstake_delay_sec" (isInteger 32),
        option "value" isAmount true]),
      ("unlock-stake", plainLeaf []),
      ("withdraw-stake", plainLeaf [option "to" isAddress true])]

def eventsGrammar : Grammar := .group
  [setting "events.poll_interval_millis" "EVENTS_POLL_INTERVAL_MILLIS" (isInteger 64),
    setting "events.max_block_range" "EVENTS_MAX_BLOCK_RANGE" (isInteger 64)]
  [("query", valueLeaf [option "address" isAddress true, option "from_block" (isInteger 64),
      option "to_block" (isInteger 64)] isKind),
    ("watch", valueLeaf [option "address" isAddress true, option "from_block" (isInteger 64)]
      isKind)]

def userOpGrammar : Grammar := .group [option "file" (fun text => !text.isEmpty) true]
  [("pack", plainLeaf []),
    ("hash", plainLeaf [option "entry_point" isAddress, option "chain_id" (isInteger 64)])]

def grammar : Grammar := .group commonOptions
  [("abi", abiGrammar), ("account", accountGrammar), ("manager", factoryGrammar),
    ("events", eventsGrammar), ("user-op", userOpGrammar)]

/-! ## From words to invocations -/

/-- The arguments of a command line, by name. -/
structure Arguments where
  value? : String → Option String
  values : List String

namespace Arguments

def address? (a : Arguments) (name : String) : Option Address := a.value? name >>= Address.parse?

def amount? (a : Arguments) (name : String) : Option Word :=
  a.value? name >>= Numeral.bounded? 256

def integer? (a : Arguments) (width : Nat) (name : String) : Option (BitVec width) :=
  a.value? name >>= integerOf? width

def calls? (a : Arguments) : Option (List Call) :=
  a.values.mapM fun text => (Call.parse text).toOption

def kind? (a : Arguments) : Option Contract.Kind := a.values.head? >>= Contract.Kind.ofName?

def accountCommand? (a : Arguments) : String → Option AccountCommand
  | "info" => some .info
  | "execute" => do return .execute (← (← a.calls?).head?)
  | "execute-batch" => do return .executeBatch (← a.calls?)
  | "call-data" => do return .callData (← a.calls?)
  | "deposit" => do return .deposit (← a.amount? "value")
  | "withdraw" => do return .withdraw (← a.address? "to") (← a.amount? "amount")
  | "initialize" => do return .setOwner (← a.address? "owner")
  | "transfer-ownership" => do return .transferOwnership (← a.address? "new_owner")
  | _ => none

def factoryCommand? (a : Arguments) (command : String) : Option FactoryCommand :=
  let salt := (a.amount? "salt").getD 0
  match command with
  | "info" => some .info
  | "get-address" => do return .accountAddress (← a.address? "owner") salt
  | "init-code" => do return .initCode (← a.address? "owner") salt
  | "create-account" => do return .createAccount (← a.address? "owner") salt
  | "add-stake" => do
    return .addStake ((a.integer? 32 "unstake_delay_sec").getD 86400) (← a.amount? "value")
  | "unlock-stake" => some .unlockStake
  | "withdraw-stake" => do return .withdrawStake (← a.address? "to")
  | _ => none

def eventsCommand? (a : Arguments) : String → Option EventsCommand
  | "query" => do
    return .query (← a.kind?) (← a.address? "address") ((a.integer? 64 "from_block").getD 0)
      (a.integer? 64 "to_block")
  | "watch" => do
    return .watch (← a.kind?) (← a.address? "address") (a.integer? 64 "from_block")
  | _ => none

def userOpCommand? (a : Arguments) : String → Option UserOpCommand
  | "pack" => some .pack
  | "hash" =>
    some (.hash ((a.address? "entry_point").getD standardEntryPoint) (a.integer? 64 "chain_id"))
  | _ => none

def command? (a : Arguments) : List String → Option Command
  | ["abi", "show"] => do return .showAbi (← a.kind?)
  | ["abi", "selectors"] => do return .listSelectors (← a.kind?)
  | ["account", name] => do
    let kind := ((a.value? "kind") >>= Contract.Kind.ofName?).getD .aAccount
    return .account kind (a.address? "address") (← a.accountCommand? name)
  | ["manager", name] => do return .factory (← a.address? "address") (← a.factoryCommand? name)
  | ["events", name] => do
    let interval := (a.integer? 64 "events.poll_interval_millis").getD 2000
    let range := (a.integer? 64 "events.max_block_range").getD 2000
    return .events (.ofMillis interval.toNat) range (← a.eventsCommand? name)
  | ["user-op", name] => do return .userOp (← a.value? "file") (← a.userOpCommand? name)
  | _ => none

def settings (a : Arguments) (labelTexts : List String) : Settings where
  nodeUrl := (a.value? "node_http").getD "http://localhost:8545"
  timeout := .ofSeconds ((a.integer? 64 "provider_client_timeout_seconds").getD 10).toNat
  privateKey := a.value? "signer.private_key"
  metricsPort := (a.integer? 16 "metrics.port").map (·.toNat)
  metricsHost := (a.value? "metrics.host").getD "0.0.0.0"
  metricsLabels := labels (labelTexts.flatMap (·.splitOn ","))
  logFile := a.value? "log.file"

end Arguments

/-- The invocation that a command line asks for. -/
def Invocation.parse (environment : String → Option String) (words : List String) :
    Except Stop Invocation := do
  let reading ← grammar.read environment words
  let arguments : Arguments := ⟨reading.value? environment, reading.values⟩
  let labelTexts := match reading.given "metrics.tags" with
    | [] => (environment "METRICS_TAGS").toList
    | texts => texts
  match arguments.command? reading.path with
  | some command => return ⟨arguments.settings labelTexts, command⟩
  | none => throw .usage

end SmartAccount.Cli
