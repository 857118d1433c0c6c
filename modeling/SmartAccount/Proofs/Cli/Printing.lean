import Mathlib.Data.Nat.Digits.Defs
import SmartAccount.Cli.Outcome
import SmartAccount.Proofs.Rpc.Dialogue
/-!
# A command prints all of its result or nothing

What a command has to print is its result: the lines that follow from all that it fetches
(`Command.result?`). A command keeps to an order: it fetches everything, and then it prints
(`Task.Prints`). So when the node lets it down anywhere on the way, nothing has been printed yet.
`Task.Prints.bind` carries this over what is fetched, one fetch after the other, and
`Command.plan_prints` says it of every command.

The lines are written out here, and what stands in them is what the node has said, question after
question (`AccountInfo`, `FactoryInfo`, `AccountAddress`, `FoundEvents`). `prints_all_or_nothing`
draws the conclusion for command lines. The log is a stream of its own, to standard error or to a
file that the operator names. It is not spoken of, also not where that file is standard output by
another name.
-/

namespace SmartAccount.Cli

open Contract

open Dialogue (Yields)

variable {σ α : Type}

/-! ## First fetch, then print -/

/-- What a task comes to that has fetched its lines and printed them, with what was printed
before. -/
def afterFetch (printed : List String) :
    Except String (List String) → Except String Unit × List String
  | .ok lines => (.ok (), printed ++ lines)
  | .error text => (.error text, printed)

/-- A task fetches its result, and prints it when it has all of it. -/
def Task.Prints (task : Task Unit) (result : Fetch (List String)) : Prop :=
  ∀ printed, task.run.run printed = afterFetch printed <$> result.run

theorem printLine_prints (line : String) : (printLine line).Prints (pure [line]) :=
  fun _ => rfl

theorem printLines_prints (lines : List String) : (printLines lines).Prints (pure lines) := by
  induction lines with
  | nil =>
    intro printed
    show _ = Dialogue.done (Except.ok (), printed ++ [])
    rw [List.append_nil]
    rfl
  | cons line rest ih =>
    intro printed
    show (printLines rest).run.run (printed ++ [line]) = _
    rw [ih (printed ++ [line])]
    show Dialogue.done (Except.ok (), printed ++ [line] ++ rest) = _
    rw [List.append_assoc]
    rfl

theorem throw_prints (text : String) : (throw text : Task Unit).Prints (throw text) :=
  fun _ => rfl

/-- What is fetched in front of a task prints nothing, and the task is left out if it fails. -/
theorem Task.Prints.bind {fetch : Fetch α} {task : α → Task Unit}
    {result : α → Fetch (List String)} (h : ∀ a, (task a).Prints (result a)) :
    Task.Prints (liftM fetch >>= task) (fetch >>= result) := by
  intro printed
  have hafter : ∀ fetched : Except String α,
      StateT.run (ExceptT.bindCont task fetched) printed
        = afterFetch printed <$> ExceptT.bindCont result fetched := by
    intro fetched
    cases fetched with
    | ok a => exact h a printed
    | error text => rfl
  show (fetch.run >>= fun fetched => pure (fetched, printed)) >>= (fun r =>
      StateT.run (ExceptT.bindCont task r.1) r.2)
    = afterFetch printed <$> (fetch.run >>= ExceptT.bindCont result)
  rw [map_bind, bind_assoc]
  refine bind_congr fun fetched => ?_
  rw [pure_bind]
  exact hafter fetched

/-! ## The result of every command -/

def sendingResult (sender : Sender) (t : Transaction) : Fetch (List String) := do
  let hash ← reported (sender.send t)
  return ["Transaction: " ++ hash.text]

def accountInfoResult (a : Account) : Fetch (List String) := do
  let owner ← during "failed to get owner" a.owner
  let entryPoint ← during "failed to get entry point" a.entryPoint
  let nonce ← during "failed to get nonce" a.nonce
  let deposit ← during "failed to get deposit" a.deposit
  return ["Account:     " ++ a.address.text ++ " (" ++ a.kind.contract.name ++ ")",
    "Owner:       " ++ owner.text, "Entry point: " ++ entryPoint.text,
    "Nonce:       " ++ Numeral.decimal nonce.toNat, "Deposit:     " ++ etherText deposit ++ " ETH"]

def AccountCommand.result (a : Account) (sender : Sender) : AccountCommand → Fetch (List String)
  | .info => accountInfoResult a
  | .execute call => sendingResult sender (a.execute call)
  | .executeBatch calls => sendingResult sender (a.executeBatch calls)
  | .callData [call] => return [Hex.text (a.executeCallData call)]
  | .callData calls => return [Hex.text (a.executeBatchCallData calls)]
  | .deposit value => sendingResult sender (a.addDeposit value)
  | .withdraw recipient amount => sendingResult sender (a.withdrawDepositTo recipient amount)
  | .setOwner owner =>
    match a.kind with
    | .account => sendingResult sender (a.setOwner owner)
    | .wallet => throw "initialize is only supported by a-account"
  | .transferOwnership newOwner =>
    match a.kind with
    | .wallet => sendingResult sender (a.transferOwnership newOwner)
    | .account => throw "transfer-ownership is only supported by aa-wallet"

def factoryInfoResult (f : Factory) : Fetch (List String) := do
  let implementation ← during "failed to get account implementation" f.accountImplementation
  let entryPoint ← during "failed to get entry point" f.entryPoint
  let owner ← during "failed to get owner" f.owner
  return ["Factory:        " ++ f.address.text, "Implementation: " ++ implementation.text,
    "Entry point:    " ++ entryPoint.text, "Owner:          " ++ owner.text]

def accountAddressResult (f : Factory) (owner : Address) (salt : Word) :
    Fetch (List String) := do
  let account ← reported (f.accountAddress owner salt)
  let deployed ← reported (f.isAccount account)
  return ["Account:  " ++ account.text, "Deployed: " ++ if deployed then "true" else "false"]

def FactoryCommand.result (f : Factory) (sender : Sender) : FactoryCommand → Fetch (List String)
  | .info => factoryInfoResult f
  | .accountAddress owner salt => accountAddressResult f owner salt
  | .initCode owner salt => return [Hex.text (f.initCode owner salt)]
  | .createAccount owner salt => sendingResult sender (f.createAccount owner salt)
  | .addStake delay value => sendingResult sender (f.addStake delay value)
  | .unlockStake => sendingResult sender f.unlockStake
  | .withdrawStake recipient => sendingResult sender (f.withdrawStake recipient)

/-- The line about an event: the event, the contract, and of its block and transaction what is
known. -/
def eventLine (e : Sighting) : String :=
  e.occurrence.display ++ "    Contract: " ++ e.address.text
    ++ (e.blockNumber.map fun n => "    Block: " ++ Numeral.decimal n.toNat).getD ""
    ++ (e.transactionHash.map fun h => "    Transaction: " ++ h.text).getD ""

/-- The lines of a query: one for each event of a query that found its events. -/
def queryLines : Query.Outcome ProviderError → Fetch (List String)
  | .found events => return events.map eventLine
  | .failed e => throw (errorText e)
  | .brokenDown cause => throw cause.message

def queryResult (settings : WatchSettings) (subject : Subject) (first : BlockNumber)
    (last : Option BlockNumber) : Fetch (List String) := do
  let last ← lastBlock last
  let outcome ← ExceptT.lift (Query.runRange queryMeans settings subject first last)
  queryLines outcome

def UserOpCommand.result (settings : Settings) (op : UserOperation) :
    UserOpCommand → Fetch (List String)
  | .pack => return [op.pack.toJson.sorted.pretty]
  | .hash entryPoint chainId => do
    let chainId ← chainIdFor settings chainId
    return [(op.hash entryPoint chainId).text]

/-- A line for each function of a contract and then for each event, in the order of their names. -/
def selectorResult (i : Contract.Interface) : List String :=
  let functions := i.functions.mergeSort fun a b => decide (a.name ≤ b.name)
  let events := i.events.mergeSort fun a b => decide (a.name ≤ b.name)
  functions.map (fun f => "function " ++ Hex.text f.selector ++ " " ++ f.signature)
    ++ events.map fun e => "event    " ++ e.topic.text ++ " " ++ e.signature

/-- All that a command has to print, from what it fetches. There is nothing for a watch, nor where
the settings, the account or the file are not in order. -/
def Command.result? (settings : Settings) (machine : Machine) :
    Command → Option (Fetch (List String))
  | .showAbi kind => some (return [kind.interface.document.pretty ++ "\n"])
  | .listSelectors kind => some (return selectorResult kind.interface)
  | .account kind address command =>
    match settings.sender, AccountKind.ofContract? kind with
    | .ok sender, some kind => some (command.result ⟨kind, address.getD 0⟩ sender)
    | _, _ => none
  | .factory address command =>
    match settings.sender with
    | .ok sender => some (command.result ⟨address⟩ sender)
    | .error _ => none
  | .events interval range command =>
    match command with
    | .query kind address first last =>
      some (queryResult { pollInterval := interval, maxBlockRange := range }
        ⟨kind.interface, address⟩ first last)
    | .watch _ _ _ => none
  | .userOp file command =>
    match readUserOp machine file with
    | .ok op => some (command.result settings op)
    | .error _ => none

/-! ## Every command fetches first -/

theorem sending_prints (sender : Sender) (t : Transaction) :
    (sending sender t).Prints (sendingResult sender t) :=
  .bind fun _ => printLine_prints _

theorem accountInfo_prints (a : Account) : (accountInfo a).Prints (accountInfoResult a) :=
  .bind fun _ => .bind fun _ => .bind fun _ => .bind fun _ => printLines_prints _

theorem AccountCommand.task_prints (a : Account) (sender : Sender) (command : AccountCommand) :
    (command.task a sender).Prints (command.result a sender) := by
  cases command with
  | info => exact accountInfo_prints a
  | callData calls =>
    match calls with
    | [call] => exact printLine_prints _
    | [] => exact printLine_prints _
    | _ :: _ :: _ => exact printLine_prints _
  | execute call => exact sending_prints _ _
  | executeBatch calls => exact sending_prints _ _
  | deposit value => exact sending_prints _ _
  | withdraw recipient amount => exact sending_prints _ _
  | setOwner owner =>
    cases hkind : a.kind with
    | account =>
      simp only [task, result, hkind]
      exact sending_prints _ _
    | wallet =>
      simp only [task, result, hkind]
      exact throw_prints _
  | transferOwnership newOwner =>
    cases hkind : a.kind with
    | account =>
      simp only [task, result, hkind]
      exact throw_prints _
    | wallet =>
      simp only [task, result, hkind]
      exact sending_prints _ _

theorem factoryInfo_prints (f : Factory) : (factoryInfo f).Prints (factoryInfoResult f) :=
  .bind fun _ => .bind fun _ => .bind fun _ => printLines_prints _

theorem factoryAccountAddress_prints (f : Factory) (owner : Address) (salt : Word) :
    (factoryAccountAddress f owner salt).Prints (accountAddressResult f owner salt) := by
  refine .bind fun account => .bind fun deployed => ?_
  cases deployed with
  | false => exact printLines_prints _
  | true => exact printLines_prints _

theorem FactoryCommand.task_prints (f : Factory) (sender : Sender) (command : FactoryCommand) :
    (command.task f sender).Prints (command.result f sender) := by
  cases command with
  | info => exact factoryInfo_prints f
  | accountAddress owner salt => exact factoryAccountAddress_prints f owner salt
  | initCode owner salt => exact printLine_prints _
  | createAccount owner salt => exact sending_prints _ _
  | addStake delay value => exact sending_prints _ _
  | unlockStake => exact sending_prints _ _
  | withdrawStake recipient => exact sending_prints _ _

theorem queryEvents_prints (settings : WatchSettings) (subject : Subject) (first : BlockNumber)
    (last : Option BlockNumber) :
    (queryEvents settings subject first last).Prints
      (queryResult settings subject first last) := by
  refine .bind fun last => .bind fun outcome => ?_
  cases outcome with
  | found events => exact printLines_prints _
  | failed e => exact throw_prints _
  | brokenDown cause => exact throw_prints _

theorem UserOpCommand.task_prints (settings : Settings) (op : UserOperation)
    (command : UserOpCommand) : (command.task settings op).Prints (command.result settings op) := by
  cases command with
  | pack => exact printLine_prints _
  | hash entryPoint chainId => exact .bind fun _ => printLine_prints _

/-- What goes well goes well at first. -/
theorem ok_of_bind {ε β : Type} {x : Except ε α} {f : α → Except ε β} {b : β}
    (h : x >>= f = .ok b) : ∃ a, x = .ok a ∧ f a = .ok b := by
  cases x with
  | error e => cases h
  | ok a => exact ⟨a, rfl, h⟩

/-- A command that is to print something prints its result. -/
theorem Command.plan_prints {settings : Settings} {machine : Machine} {command : Command}
    {task : Task Unit} (h : command.plan settings machine = .ok (.print task)) :
    ∃ result, command.result? settings machine = some result ∧ task.Prints result := by
  cases command with
  | showAbi kind =>
    cases h
    exact ⟨_, rfl, printLine_prints _⟩
  | listSelectors kind =>
    cases h
    exact ⟨_, rfl, printLines_prints _⟩
  | account kind address command =>
    simp only [plan] at h
    obtain ⟨-, h⟩ | ⟨-, h⟩ := ite_eq_iff.mp h
    · obtain ⟨_, hthrow, -⟩ := ok_of_bind h
      cases hthrow
    · obtain ⟨sender, hsender, h⟩ := ok_of_bind h
      cases hkind : AccountKind.ofContract? kind with
      | none =>
        rw [hkind] at h
        cases h
      | some k =>
        rw [hkind] at h
        cases h
        exact ⟨_, by rw [result?, hsender, hkind], AccountCommand.task_prints _ _ _⟩
  | factory address command =>
    obtain ⟨sender, hsender, h⟩ := ok_of_bind h
    cases h
    exact ⟨_, by rw [result?, hsender], FactoryCommand.task_prints _ _ _⟩
  | events interval range command =>
    obtain ⟨_, -, h⟩ := ok_of_bind h
    cases command with
    | query kind address first last =>
      cases h
      exact ⟨_, rfl, queryEvents_prints _ _ _ _⟩
    | watch kind address first => cases h
  | userOp file command =>
    obtain ⟨op, hop, h⟩ := ok_of_bind h
    cases h
    exact ⟨_, by rw [result?, hop], UserOpCommand.task_prints _ _ _⟩

/-! ## What is left of a run -/

/-- A task that fetches first leaves its result, or only the text of the error. -/
theorem Task.Prints.dialogue {task : Task Unit} {result : Fetch (List String)}
    (h : task.Prints result) : task.dialogue = Outcome.ofResult <$> result.run := by
  have hleft : Outcome.ofRun ∘ afterFetch [] = Outcome.ofResult := by
    funext fetched
    cases fetched <;> rfl
  rw [Task.dialogue, h [], ← comp_map, hleft]

theorem Task.Prints.outcome {task : Task Unit} {result : Fetch (List String)}
    (h : task.Prints result) (node : Dialogue.Node σ) (s : σ) :
    (task.outcome node s).result
      = Outcome.ofResult (Dialogue.run node result.run s).result := by
  rw [Task.outcome, h.dialogue, Dialogue.run_map]

/-- An outcome that is the text of an error and nothing else. -/
def Outcome.IsErrorAlone (o : Outcome) : Prop :=
  ∃ text, o = { exitCode := 1, error := some ("Error: " ++ text) }

/-- A task that fetches first leaves an error alone, or its result is all that it leaves. -/
theorem Task.Prints.outcome_cases {task : Task Unit} {result : Fetch (List String)}
    (h : task.Prints result) (node : Dialogue.Node σ) (s : σ) :
    (task.outcome node s).result.IsErrorAlone
      ∨ ∃ lines, (Dialogue.run node result.run s).result = .ok lines
        ∧ (task.outcome node s).result = { exitCode := 0, output := lines } := by
  rw [h.outcome node s]
  cases (Dialogue.run node result.run s).result with
  | error text => exact .inl ⟨text, rfl⟩
  | ok lines => exact .inr ⟨lines, rfl, rfl⟩

/-- A command left all the lines of its result, or an error alone because there are none. -/
def Outcome.AllOrNothing (o : Outcome) (IsResult : List String → Prop) : Prop :=
  (∃ lines, IsResult lines ∧ o = { exitCode := 0, output := lines })
    ∨ (o.IsErrorAlone ∧ ∀ lines, ¬ IsResult lines)

theorem Task.Prints.allOrNothing {task : Task Unit} {result : Fetch (List String)}
    (h : task.Prints result) {node : Dialogue.Node σ} {s : σ} {IsResult : List String → Prop}
    (hresult : ∀ lines, IsResult lines ↔ ∃ s', Yields node result s lines s') :
    (task.outcome node s).result.AllOrNothing IsResult := by
  rw [h.outcome node s]
  cases hfetched : (Dialogue.run node result.run s).result with
  | ok lines => exact .inl ⟨lines, (hresult lines).mpr ⟨_, hfetched, rfl⟩, rfl⟩
  | error text =>
    refine .inr ⟨⟨text, rfl⟩, fun lines hlines => ?_⟩
    obtain ⟨_, hok, -⟩ := (hresult lines).mp hlines
    rw [hfetched] at hok
    cases hok

section Fetched

variable {node : Dialogue.Node σ} {s s' : σ}

theorem yields_reported {exchange : Exchange α} {a : α} :
    Yields node (reported exchange) s a s' ↔ Yields node exchange s a s' :=
  Dialogue.yields_mk_map fun result _ => by cases result <;> simp [Except.mapError]

theorem yields_during {context : String} {exchange : Exchange α} {a : α} :
    Yields node (during context exchange) s a s' ↔ Yields node exchange s a s' :=
  Dialogue.yields_mk_map fun result _ => by cases result <;> simp [inContext, Except.mapError]

end Fetched

/-! ## What the node has said -/

/-- The text is an amount of wei in ether: the whole part, and after the point 18 digits for the
rest of it. -/
def IsEther (amount : Nat) (text : String) : Prop :=
  ∃ places : List Char,
    text = Numeral.decimal (amount / 1000000000000000000) ++ "." ++ String.ofList places
      ∧ places.length = 18 ∧ (∀ c ∈ places, c.isDigit = true)
      ∧ Nat.ofDigitChars 10 places 0 = amount % 1000000000000000000

theorem isEther_etherText (amount : Word) : IsEther amount.toNat (etherText amount) := by
  let rest := amount.toNat % 1000000000000000000
  let digits := Nat.toDigits 10 rest
  have hrest : rest < 10 ^ 18 := Nat.mod_lt _ (by decide)
  have hlength : digits.length ≤ 18 := Nat.toDigits_length 10 rest 18 (by decide) hrest
  refine ⟨List.replicate (18 - digits.length) '0' ++ digits, rfl, ?_, ?_, ?_⟩
  · rw [List.length_append, List.length_replicate]
    exact Nat.sub_add_cancel hlength
  · intro c hc
    rcases List.mem_append.mp hc with hzero | hdigit
    · rw [List.eq_of_mem_replicate hzero]
      rfl
    · exact Nat.isDigit_of_mem_toDigits (by decide) (by decide) hdigit
  · rw [Nat.ofDigitChars_append, Nat.ofDigitChars_replicate_zero, Nat.mul_zero]
    exact Nat.ofDigitChars_toDigits (by decide) (by decide)

/-- The lines about an account, with what the node says of it when it is asked for one thing after
the other. -/
def AccountInfo (node : Dialogue.Node σ) (s : σ) (a : Account) (lines : List String) : Prop :=
  ∃ owner s₁ entryPoint s₂ nonce s₃ deposit s₄,
    Yields node a.owner s owner s₁ ∧ Yields node a.entryPoint s₁ entryPoint s₂
      ∧ Yields node a.nonce s₂ nonce s₃ ∧ Yields node a.deposit s₃ deposit s₄
      ∧ lines = ["Account:     " ++ a.address.text ++ " (" ++ a.kind.contract.name ++ ")",
          "Owner:       " ++ owner.text, "Entry point: " ++ entryPoint.text,
          "Nonce:       " ++ Numeral.decimal nonce.toNat,
          "Deposit:     " ++ etherText deposit ++ " ETH"]

/-- The lines about a factory. -/
def FactoryInfo (node : Dialogue.Node σ) (s : σ) (f : Factory) (lines : List String) : Prop :=
  ∃ implementation s₁ entryPoint s₂ owner s₃,
    Yields node f.accountImplementation s implementation s₁
      ∧ Yields node f.entryPoint s₁ entryPoint s₂ ∧ Yields node f.owner s₂ owner s₃
      ∧ lines = ["Factory:        " ++ f.address.text, "Implementation: " ++ implementation.text,
          "Entry point:    " ++ entryPoint.text, "Owner:          " ++ owner.text]

/-- The lines about the account that a factory has for an owner and a salt. -/
def AccountAddress (node : Dialogue.Node σ) (s : σ) (f : Factory) (owner : Address) (salt : Word)
    (lines : List String) : Prop :=
  ∃ account s₁ deployed s₂,
    Yields node (f.accountAddress owner salt) s account s₁
      ∧ Yields node (f.isAccount account) s₁ deployed s₂
      ∧ lines = ["Account:  " ++ account.text,
          "Deployed: " ++ if deployed then "true" else "false"]

/-- The lines of a query, one for each event that it found. -/
def FoundEvents (node : Dialogue.Node σ) (s : σ) (settings : WatchSettings) (subject : Subject)
    (first : BlockNumber) (last : Option BlockNumber) (lines : List String) : Prop :=
  ∃ block s₁ events, Yields node (lastBlock last) s block s₁
    ∧ (Dialogue.run node (Query.runRange queryMeans settings subject first block) s₁).result
      = .found events
    ∧ lines = events.map eventLine

section Results

variable (node : Dialogue.Node σ) (s : σ)

theorem accountInfo_allOrNothing (a : Account) :
    ((accountInfo a).outcome node s).result.AllOrNothing (AccountInfo node s a) := by
  refine (accountInfo_prints a).allOrNothing fun lines => ?_
  simp only [AccountInfo, accountInfoResult, Dialogue.yields_bind, yields_during,
    Dialogue.yields_pure]
  constructor
  · rintro ⟨owner, s₁, entryPoint, s₂, nonce, s₃, deposit, s₄, h₁, h₂, h₃, h₄, rfl⟩
    exact ⟨s₄, owner, s₁, h₁, entryPoint, s₂, h₂, nonce, s₃, h₃, deposit, s₄, h₄, rfl, rfl⟩
  · rintro ⟨s', owner, s₁, h₁, entryPoint, s₂, h₂, nonce, s₃, h₃, deposit, s₄, h₄, hlines, -⟩
    exact ⟨owner, s₁, entryPoint, s₂, nonce, s₃, deposit, s₄, h₁, h₂, h₃, h₄, hlines.symm⟩

theorem factoryInfo_allOrNothing (f : Factory) :
    ((factoryInfo f).outcome node s).result.AllOrNothing (FactoryInfo node s f) := by
  refine (factoryInfo_prints f).allOrNothing fun lines => ?_
  simp only [FactoryInfo, factoryInfoResult, Dialogue.yields_bind, yields_during,
    Dialogue.yields_pure]
  constructor
  · rintro ⟨implementation, s₁, entryPoint, s₂, owner, s₃, h₁, h₂, h₃, rfl⟩
    exact ⟨s₃, implementation, s₁, h₁, entryPoint, s₂, h₂, owner, s₃, h₃, rfl, rfl⟩
  · rintro ⟨s', implementation, s₁, h₁, entryPoint, s₂, h₂, owner, s₃, h₃, hlines, -⟩
    exact ⟨implementation, s₁, entryPoint, s₂, owner, s₃, h₁, h₂, h₃, hlines.symm⟩

/-- The address of an account is not printed without whether it is deployed. -/
theorem factoryAccountAddress_allOrNothing (f : Factory) (owner : Address) (salt : Word) :
    ((factoryAccountAddress f owner salt).outcome node s).result.AllOrNothing
      (AccountAddress node s f owner salt) := by
  refine (factoryAccountAddress_prints f owner salt).allOrNothing fun lines => ?_
  simp only [AccountAddress, accountAddressResult, Dialogue.yields_bind, yields_reported,
    Dialogue.yields_pure]
  constructor
  · rintro ⟨account, s₁, deployed, s₂, h₁, h₂, rfl⟩
    exact ⟨s₂, account, s₁, h₁, deployed, s₂, h₂, rfl, rfl⟩
  · rintro ⟨s', account, s₁, h₁, deployed, s₂, h₂, hlines, -⟩
    exact ⟨account, s₁, deployed, s₂, h₁, h₂, hlines.symm⟩

/-- No event is printed unless the whole query found its events. -/
theorem queryEvents_allOrNothing (settings : WatchSettings) (subject : Subject)
    (first : BlockNumber) (last : Option BlockNumber) :
    ((queryEvents settings subject first last).outcome node s).result.AllOrNothing
      (FoundEvents node s settings subject first last) := by
  refine (queryEvents_prints settings subject first last).allOrNothing fun lines => ?_
  simp only [FoundEvents, queryResult, Dialogue.yields_bind, Dialogue.yields_lift]
  constructor
  · rintro ⟨block, s₁, events, hblock, hfound, rfl⟩
    exact ⟨_, block, s₁, hblock, .found events, _, ⟨hfound, rfl⟩,
      Dialogue.yields_pure.mpr ⟨rfl, rfl⟩⟩
  · rintro ⟨s', block, s₁, hblock, outcome, s₂, ⟨hfound, -⟩, hlines⟩
    cases outcome with
    | found events =>
      obtain ⟨hlines, -⟩ := Dialogue.yields_pure.mp hlines
      exact ⟨block, s₁, events, hblock, hfound, hlines.symm⟩
    | failed e => exact absurd hlines Dialogue.not_yields_throw
    | brokenDown cause => exact absurd hlines Dialogue.not_yields_throw

end Results

/-! ## Command lines -/

/-- All that can become of a command line. -/
theorem outcome?_cases (environment : String → Option String) (machine : Machine)
    (node : Dialogue.Node σ) (words : List String) (s : σ) :
    (∃ stop, Invocation.parse environment words = .error stop
      ∧ outcome? environment machine node words s = some ⟨.ofStop stop, [], 0, s⟩)
    ∨ (∃ text, outcome? environment machine node words s
        = some ⟨.ofResult (.error text), [], 0, s⟩)
    ∨ (∃ i task, Invocation.parse environment words = .ok i ∧ i.plan machine = .ok (.print task)
      ∧ outcome? environment machine node words s = some (task.outcome node s))
    ∨ ∃ i settings subject first, Invocation.parse environment words = .ok i
      ∧ i.plan machine = .ok (.watch settings subject first)
      ∧ outcome? environment machine node words s = none := by
  unfold outcome?
  cases Invocation.parse environment words with
  | error stop => exact .inl ⟨stop, rfl, rfl⟩
  | ok i =>
    cases hplan : i.plan machine with
    | error text => exact .inr (.inl ⟨text, by simp only [hplan]⟩)
    | ok plan =>
      cases plan with
      | print task => exact .inr (.inr (.inl ⟨i, task, rfl, hplan, by simp only [hplan]⟩))
      | watch settings subject first =>
        exact .inr (.inr (.inr ⟨i, settings, subject, first, rfl, hplan, by simp only [hplan]⟩))

/-- What is left of a run that failed, and of one that succeeded. -/
theorem outcome?_prints {environment : String → Option String} {machine : Machine}
    {node : Dialogue.Node σ} {words : List String} {s : σ} {t : Dialogue.Transcript σ Outcome}
    (ht : outcome? environment machine node words s = some t) :
    (t.result.exitCode ≠ 0 → t.result.output = [])
      ∧ (t.result.exitCode = 0 →
        (∃ stop, Invocation.parse environment words = .error stop ∧ t.result = .ofStop stop)
        ∨ ∃ i result, Invocation.parse environment words = .ok i
          ∧ i.command.result? i.settings machine = some result
          ∧ (Dialogue.run node result.run s).result = .ok t.result.output) := by
  rcases outcome?_cases environment machine node words s with
    ⟨stop, hstop, hleft⟩ | ⟨text, hleft⟩ | ⟨i, task, hparse, hplan, hleft⟩
      | ⟨_, _, _, _, _, _, hleft⟩
  · obtain rfl := Option.some.inj (hleft.symm.trans ht)
    refine ⟨fun hfailed => ?_, fun _ => .inl ⟨stop, hstop, rfl⟩⟩
    cases stop with
    | usage => rfl
    | help => exact absurd rfl hfailed
    | version => exact absurd rfl hfailed
  · obtain rfl := Option.some.inj (hleft.symm.trans ht)
    refine ⟨fun _ => rfl, fun hsucceeded => ?_⟩
    cases hsucceeded
  · obtain rfl := Option.some.inj (hleft.symm.trans ht)
    obtain ⟨_, -, hplan⟩ := ok_of_bind hplan
    obtain ⟨result, hresult, hprints⟩ := Command.plan_prints hplan
    rcases hprints.outcome_cases node s with ⟨text, hfailed⟩ | ⟨lines, hlines, hsucceeded⟩
    · rw [hfailed]
      refine ⟨fun _ => rfl, fun hsucceeded => ?_⟩
      cases hsucceeded
    · rw [hsucceeded]
      refine ⟨fun hfailed => absurd rfl hfailed, fun _ => ?_⟩
      exact .inr ⟨i, result, hparse, hresult, hlines⟩
  · rw [hleft] at ht
    cases ht

/-- Only a watch is left to go on. -/
theorem outcome?_eq_none_iff (environment : String → Option String) (machine : Machine)
    (node : Dialogue.Node σ) (words : List String) (s : σ) :
    outcome? environment machine node words s = none ↔
      ∃ i settings subject first, Invocation.parse environment words = .ok i
        ∧ i.plan machine = .ok (.watch settings subject first) := by
  refine ⟨fun hnone => ?_, ?_⟩
  · rcases outcome?_cases environment machine node words s with
      ⟨_, _, hleft⟩ | ⟨_, hleft⟩ | ⟨_, _, _, _, hleft⟩
        | ⟨i, settings, subject, first, hparse, hplan, -⟩
    · rw [hnone] at hleft
      cases hleft
    · rw [hnone] at hleft
      cases hleft
    · rw [hnone] at hleft
      cases hleft
    · exact ⟨i, settings, subject, first, hparse, hplan⟩
  · rintro ⟨i, settings, subject, first, hparse, hplan⟩
    unfold outcome?
    simp only [hparse, hplan]

/-! ## Results -/

/-- A node that answers some times with one word, and then no more. -/
def answersTimes (times : Nat) : Dialogue.Node Nat := fun _ asked =>
  (if asked < times then .ok (.string (Hex.text (BigEndian.encode 32 7)))
    else .error (.transport ""), asked + 1)

/-- A command line for information about an account. -/
def infoWords : List String :=
  ["--node_http", "http://[::1]:8545", "account", "info", "--address",
    "0x00000000000000000000000000000000000000b0"]

/-- A machine without files. -/
def bareMachine : Machine := ⟨fun _ => none, fun _ _ => false⟩

end SmartAccount.Cli
