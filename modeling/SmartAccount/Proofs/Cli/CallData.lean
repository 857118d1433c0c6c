import SmartAccount.Cli.Outcome
import SmartAccount.Proofs.Call
import SmartAccount.Proofs.Cli.Reading
import SmartAccount.Proofs.Contract.CallData
import SmartAccount.Proofs.UserOperation.Packing
/-!
# Call data says what was meant

An account makes call data without asking its node. Whichever of the two contracts the account is,
either contract decodes the call data to what the caller meant: a call with its target, value and
data, calls in their order, or a user operation that unpacks to its normal form (`Says`).

The command that prints call data is followed from the words of its command line
(`CallDataLine.parse_words`) to what is printed. A text that is a call is never taken for an option,
because it starts with the digits of an address.
-/

namespace SmartAccount

open Contract

/-! ## The call data of an account -/

/-- Both contracts that serve as accounts decode the call data to an invocation, with or without
validation. -/
def Says (data : Bytes) (i : Contract.Invocation) : Prop :=
  ∀ (k : AccountKind) (validate : Bool),
    Contract.Invocation.decode k.contract.interface.functions validate data = .ok i

/-- The functions that an account makes call data for without being asked to send it. -/
def offlineFunctions : List Function := [.execute, .executeBatch, .validateUserOp]

/-- Call data of a function that both contracts declare says what it was made of. -/
theorem says_encodeCall {f : Function} (hf : f ∈ offlineFunctions) (args : f.inputs.Value)
    (hlength : (f.encodeCall args).length < 2 ^ 64) : Says (f.encodeCall args) ⟨f, args⟩ := by
  intro k validate
  have hmem : ∀ f ∈ offlineFunctions, f ∈ k.contract.interface.functions := by
    cases k <;> decide
  exact k.contract.decode_encode ⟨f, args⟩ (hmem f hf) hlength validate

theorem packedOfValue_packedValue (p : PackedUserOperation) :
    packedOfValue (packedValue p) = p := rfl

theorem map_callOfValue_callValue (calls : List Call) :
    (calls.map callValue).map callOfValue = calls := by
  rw [List.map_map]
  exact List.map_id calls

/-- What an account is asked to do with calls: to execute one, or a batch of several. -/
def executing : List Call → Contract.Invocation
  | [call] => ⟨.execute, (call.target, call.value, call.data, ())⟩
  | calls => ⟨.executeBatch, (calls.map callValue, ())⟩

theorem says_executing (calls : List Call) (hlength : (executing calls).encode.length < 2 ^ 64) :
    Says (executing calls).encode (executing calls) := by
  have hexecute : Function.execute ∈ offlineFunctions := by decide
  have hbatch : Function.executeBatch ∈ offlineFunctions := by decide
  match calls, hlength with
  | [], hlength => exact says_encodeCall hbatch _ hlength
  | [_], hlength => exact says_encodeCall hexecute _ hlength
  | _ :: _ :: _, hlength => exact says_encodeCall hbatch _ hlength

namespace Cli

/-! ## The command line -/

/-- A call is never taken for an option. -/
theorem isOptionLike_of_parse {text : String} {call : Call} (h : Call.parse text = .ok call) :
    isOptionLike text = false := by
  unfold isOptionLike
  split
  next => rfl
  next rest _ htext => exact absurd h (Call.parse_hyphen htext call)
  next => rfl

/-- The options of the account commands: their own and those of all commands. -/
def accountOptions : List OptionSpec := accountGrammar.options ++ commonOptions

theorem isReadable_accountOptions : ∀ spec ∈ accountOptions, spec.isReadable = true := by decide

theorem isReadable_commonOptions : ∀ spec ∈ commonOptions, spec.isReadable = true := by decide

/-- An environment that says nothing wrong in place of the options of all commands. -/
def IsAccepted (environment : String → Option String) : Prop :=
  ∀ spec ∈ commonOptions, ∀ value,
    (spec.environment >>= environment) = some value → spec.accepts value = true

/-- A command line that asks for the call data of calls. Options may stand in front of each of its
two commands and in front of the calls. -/
structure CallDataLine where
  /-- The options in front of `account`. -/
  outer : List (String × String)
  /-- The options in front of `call-data`. -/
  account : List (String × String)
  /-- The options in front of the calls. -/
  inner : List (String × String)
  texts : List String
  calls : List Call
  outer_taken : TakesAll commonOptions outer
  account_taken : TakesAll accountOptions account
  inner_taken : TakesAll accountOptions inner
  texts_nonempty : texts ≠ []
  texts_parsed : texts.map Call.parse = calls.map .ok

namespace CallDataLine

def words (line : CallDataLine) : List String :=
  optionWords line.outer ++ "account" ::
    (optionWords line.account ++ "call-data" :: (optionWords line.inner ++ line.texts))

def reading (line : CallDataLine) : Reading where
  path := ["account", "call-data"]
  levels := [⟨accountOptions, line.inner, none⟩, ⟨accountOptions, line.account, none⟩,
    ⟨commonOptions, line.outer, none⟩]
  values := line.texts

/-- What the options say, or the environment in their place. -/
def arguments (line : CallDataLine) (environment : String → Option String) : Arguments :=
  ⟨line.reading.value? environment, line.texts⟩

/-- The contract that the line names, the account if it names none. -/
def kind (line : CallDataLine) (environment : String → Option String) : Contract.Kind :=
  ((line.arguments environment).value? "kind" >>= Contract.Kind.ofName?).getD .aAccount

/-- The settings that the line and the environment come to. -/
def settings (line : CallDataLine) (environment : String → Option String) : Settings :=
  (line.arguments environment).settings
    (match line.reading.given "metrics.tags" with
      | [] => (environment "METRICS_TAGS").toList
      | texts => texts)

theorem parse_of_mem (line : CallDataLine) {text : String} (h : text ∈ line.texts) :
    ∃ call, Call.parse text = .ok call := by
  have hmem : Call.parse text ∈ line.calls.map .ok :=
    line.texts_parsed ▸ List.mem_map_of_mem h
  obtain ⟨call, -, hcall⟩ := List.mem_map.mp hmem
  exact ⟨call, hcall.symm⟩

theorem takes_texts (line : CallDataLine) :
    ∀ text ∈ line.texts, isOptionLike text = false ∧ isCall text = true := by
  intro text htext
  obtain ⟨call, hcall⟩ := line.parse_of_mem htext
  refine ⟨isOptionLike_of_parse hcall, ?_⟩
  rw [isCall, hcall]
  rfl

theorem calls?_arguments (line : CallDataLine) (environment : String → Option String) :
    (line.arguments environment).calls? = some line.calls := by
  have hall (calls : List Call) :
      (calls.map (.ok : Call → Except Call.ParseError Call)).mapM Except.toOption = some calls := by
    induction calls with
    | nil => rfl
    | cons call calls ih =>
      rw [List.map_cons, List.mapM_cons, ih]
      rfl
  show line.texts.mapM (fun text => (Call.parse text).toOption) = some line.calls
  rw [← hall line.calls, ← line.texts_parsed, List.mapM_map]
  rfl

section Reading

variable {environment : String → Option String} (haccepted : IsAccepted environment)
include haccepted

theorem isComplete_common (values : List (String × String)) :
    Given.isComplete environment ⟨commonOptions, values, none⟩ = true := by
  have hoptional : ∀ spec ∈ commonOptions, spec.isRequired = false := by decide
  exact Given.isComplete_of_accepted hoptional haccepted

theorem isComplete_account (values : List (String × String)) :
    Given.isComplete environment ⟨accountOptions, values, none⟩ = true := by
  have hoptional : ∀ spec ∈ accountOptions, spec.isRequired = false := by decide
  refine Given.isComplete_of_accepted hoptional fun spec hspec value hvalue => ?_
  rcases List.mem_append.mp hspec with hown | hcommon
  · -- the options of the account have no variables
    have hnone : ∀ spec ∈ accountGrammar.options, spec.environment = none := by decide
    rw [hnone spec hown] at hvalue
    cases hvalue
  · exact haccepted spec hcommon value hvalue

/-- The words are read as the options and the texts that they were made of. -/
theorem read_words (line : CallDataLine) :
    grammar.read environment line.words = .ok line.reading := by
  obtain ⟨outer, houter, hreadOuter⟩ := Cursor.read_command (c := Cursor.start grammar) environment
    isReadable_commonOptions line.outer_taken rfl rfl "account" rfl (by decide) rfl
    (optionWords line.account ++ "call-data" :: (optionWords line.inner ++ line.texts))
  rw [Grammar.read, words, hreadOuter]
  obtain ⟨account, haccount, hreadAccount⟩ := Cursor.read_command
    (c := ⟨accountGrammar, ⟨accountOptions, [], none⟩, ["account"], [outer], []⟩) environment
    isReadable_accountOptions line.account_taken rfl rfl "call-data" rfl (by decide) rfl
    (optionWords line.inner ++ line.texts)
  refine Eq.trans hreadAccount ?_
  -- nothing is left to check of the options further out
  have hlevels : [account, outer].mapM Given.settle
      = .ok [⟨accountOptions, line.account, none⟩, ⟨commonOptions, line.outer, none⟩] := by
    rw [List.mapM_cons, List.mapM_cons, haccount, houter]
    rfl
  refine Cursor.read_leaf isReadable_accountOptions line.inner_taken rfl rfl rfl line.takes_texts
    ?_ hlevels ?_
  · exact List.length_pos_iff.mpr line.texts_nonempty
  · intro level hlevel
    simp only [List.mem_cons, List.not_mem_nil, or_false] at hlevel
    rcases hlevel with rfl | rfl | rfl
    · exact isComplete_account haccepted _
    · exact isComplete_account haccepted _
    · exact isComplete_common haccepted _

/-- The words are understood as what the line says. -/
theorem parse_words (line : CallDataLine) :
    Invocation.parse environment line.words = .ok ⟨line.settings environment,
      .account (line.kind environment) ((line.arguments environment).address? "address")
        (.callData line.calls)⟩ := by
  -- the texts are read a second time, now for the calls in them
  have hinner : (line.arguments environment).accountCommand? "call-data"
      = some (.callData line.calls) := by
    simp only [Arguments.accountCommand?, line.calls?_arguments]
    rfl
  have hcommand : Arguments.command? ⟨line.reading.value? environment, line.reading.values⟩
      line.reading.path
      = some (.account (line.kind environment) ((line.arguments environment).address? "address")
        (.callData line.calls)) := by
    show ((line.arguments environment).accountCommand? "call-data").bind (fun command =>
      some (Command.account (line.kind environment)
        ((line.arguments environment).address? "address") command)) = _
    rw [hinner, Option.bind_some]
  unfold Invocation.parse
  simp only [line.read_words haccepted, hcommand, bind, Except.bind]
  rfl

end Reading

end CallDataLine

/-! ## What is printed -/

theorem callDataOf_eq (a : Account) (calls : List Call) :
    callDataOf a calls = (executing calls).encode := by
  match calls with
  | [] => rfl
  | [_] => rfl
  | _ :: _ :: _ => rfl

/-- Once the settings are in order, the command prints call data and talks to no node. -/
theorem plan_callData {machine : Machine} {settings : Settings} {kind : Contract.Kind}
    (hkind : kind ≠ .accountManager) (hsender : settings.sender.toBool = true)
    (hmetrics : settings.serveMetrics machine = .ok ()) (address : Option Address)
    (calls : List Call) :
    Invocation.plan machine ⟨settings, .account kind address (.callData calls)⟩
      = .ok (.print (printLine (Hex.text (executing calls).encode))) := by
  obtain ⟨sender, hsome⟩ : ∃ sender, settings.sender = .ok sender := by
    cases hcase : settings.sender with
    | error text =>
      rw [hcase] at hsender
      cases hsender
    | ok sender => exact ⟨sender, rfl⟩
  obtain ⟨k, hk⟩ : ∃ k, AccountKind.ofContract? kind = some k := by
    cases kind with
    | aAccount => exact ⟨_, rfl⟩
    | aaWallet => exact ⟨_, rfl⟩
    | accountManager => exact absurd rfl hkind
  -- an address is not asked for
  simp only [Invocation.plan, hmetrics, Command.plan, hsome, hk, bind, Except.bind, Bool.not_true,
    Bool.and_false, Bool.false_eq_true, if_false, AccountCommand.task, callDataOf_eq]
  rfl

/-- The call data that an account makes offline is the same for both contracts, and either contract
decodes it to what was meant: one call with its target, value and data; the calls of a batch in
their order; an operation that unpacks to its normal form, with the hash and the funds.

So a command line that asks for the call data of calls, each given as a text, prints call data from
which exactly these calls are decoded, as soon as the settings are in order that every account
command needs. The bound on the length is that of a byte string in memory. -/
theorem call_data_says_calls :
    (∀ a b : Account, a.executeCallData = b.executeCallData
      ∧ a.executeBatchCallData = b.executeBatchCallData
      ∧ a.validateUserOpCallData = b.validateUserOpCallData)
    ∧ (∀ (a : Account) (call : Call), (a.executeCallData call).length < 2 ^ 64 →
        Says (a.executeCallData call) ⟨.execute, (call.target, call.value, call.data, ())⟩)
    ∧ (∀ (a : Account) (calls : List Call), (a.executeBatchCallData calls).length < 2 ^ 64 →
        ∃ values, Says (a.executeBatchCallData calls) ⟨.executeBatch, (values, ())⟩
          ∧ values.map callOfValue = calls)
    ∧ (∀ (a : Account) (op : UserOperation) (hash : Hash) (funds : Word),
        (a.validateUserOpCallData op hash funds).length < 2 ^ 64 →
        ∃ packed, Says (a.validateUserOpCallData op hash funds)
            ⟨.validateUserOp, (packed, hash, funds, ())⟩
          ∧ UserOperation.unpack (packedOfValue packed) = .ok op.normalize)
    ∧ ∀ (line : CallDataLine) (environment : String → Option String) (machine : Machine)
        (a : Account), IsAccepted environment → line.kind environment ≠ .accountManager →
        (line.settings environment).sender.toBool = true →
        (line.settings environment).serveMetrics machine = .ok () →
        (∃ i task, Invocation.parse environment line.words = .ok i
          ∧ i.plan machine = .ok (.print task)
          ∧ ∀ {σ : Type} (node : Dialogue.Node σ) (s : σ), task.outcome node s
              = ⟨{ exitCode := 0, output := [Hex.text (callDataOf a line.calls)] }, [], 0, s⟩)
        ∧ Hex.parse? (Hex.text (callDataOf a line.calls)) = some (callDataOf a line.calls)
        ∧ ((callDataOf a line.calls).length < 2 ^ 64 →
            Says (callDataOf a line.calls) (executing line.calls)) := by
  refine ⟨fun a b => ⟨rfl, rfl, rfl⟩, ?_, ?_, ?_, ?_⟩
  · intro a call hlength
    have hexecute : Function.execute ∈ offlineFunctions := by decide
    exact says_encodeCall hexecute _ hlength
  · intro a calls hlength
    have hbatch : Function.executeBatch ∈ offlineFunctions := by decide
    exact ⟨calls.map callValue, says_encodeCall hbatch _ hlength, map_callOfValue_callValue calls⟩
  · intro a op hash funds hlength
    have hvalidate : Function.validateUserOp ∈ offlineFunctions := by decide
    refine ⟨packedValue op.pack, says_encodeCall hvalidate _ hlength, ?_⟩
    rw [packedOfValue_packedValue, UserOperation.unpack_pack]
  · intro line environment machine a haccepted hkind hsender hmetrics
    refine ⟨⟨_, _, line.parse_words haccepted, plan_callData hkind hsender hmetrics _ _, ?_⟩,
      Hex.parse?_text _, ?_⟩
    · intro σ node s
      rw [callDataOf_eq]
      rfl
    · rw [callDataOf_eq]
      exact says_executing line.calls

/-- A line that names the wallet and a node of its own, with two calls. -/
def twoTexts : CallDataLine where
  outer := [("node_http", "http://[::1]:8545")]
  account := [("kind", "aa-wallet")]
  inner := []
  texts := ["0x00000000000000000000000000000000000000b0:1",
    "0x00000000000000000000000000000000000000b1::0xdeadbeef"]
  calls := [⟨0xb0, 1, []⟩, ⟨0xb1, 0, [0xde, 0xad, 0xbe, 0xef]⟩]
  outer_taken := by decide
  account_taken := by decide
  inner_taken := by decide
  texts_nonempty := by decide
  texts_parsed := rfl

/-- An operation that is not in normal form: it has factory data without a factory. -/
def idleFactoryData : UserOperation where
  sender := 0x1234
  nonce := 5
  factory := none
  factoryData := [0xfa]
  callData := [0xb6, 0x1d, 0x27, 0xf6]
  callGasLimit := 100000
  verificationGasLimit := 200000
  preVerificationGas := 21000
  maxPriorityFeePerGas := 1
  maxFeePerGas := 100
  paymaster := some 0x9a
  paymasterVerificationGasLimit := 30000
  paymasterPostOpGasLimit := 10000
  paymasterData := [0x01]
  signature := []

theorem call_data_says_calls_twoTexts :
    (Account.executeCallData ⟨.account, 0x1234⟩ ⟨0xb0, 1, []⟩).length < 2 ^ 64
      ∧ Says (Account.executeCallData ⟨.account, 0x1234⟩ ⟨0xb0, 1, []⟩)
        ⟨.execute, ((0xb0 : Address), (1 : Word), [], ())⟩
      ∧ (Account.validateUserOpCallData ⟨.wallet, 0x1234⟩ idleFactoryData 7 8).length < 2 ^ 64
      ∧ (∃ packed, Says (Account.validateUserOpCallData ⟨.wallet, 0x1234⟩ idleFactoryData 7 8)
          ⟨.validateUserOp, (packed, (7 : Hash), (8 : Word), ())⟩
        ∧ UserOperation.unpack (packedOfValue packed) = .ok idleFactoryData.normalize)
      ∧ IsAccepted (fun _ => none) ∧ twoTexts.kind (fun _ => none) ≠ .accountManager
      ∧ (twoTexts.settings fun _ => none).sender.toBool = true
      ∧ (twoTexts.settings fun _ => none).serveMetrics ⟨fun _ => none, fun _ _ => false⟩ = .ok ()
      ∧ (callDataOf ⟨.wallet, 0x1234⟩ twoTexts.calls).length < 2 ^ 64
      ∧ (∃ i task, Invocation.parse (fun _ => none) twoTexts.words = .ok i
        ∧ i.plan ⟨fun _ => none, fun _ _ => false⟩ = .ok (.print task)
        ∧ ∀ {σ : Type} (node : Dialogue.Node σ) (s : σ), task.outcome node s
          = ⟨{ exitCode := 0, output := [Hex.text (callDataOf ⟨.wallet, 0x1234⟩ twoTexts.calls)] },
            [], 0, s⟩)
      ∧ Says (callDataOf ⟨.wallet, 0x1234⟩ twoTexts.calls)
        ⟨.executeBatch, (twoTexts.calls.map callValue, ())⟩ := by
  obtain ⟨-, hexecute, -, hvalidate, hcommand⟩ := call_data_says_calls
  have hcall : (Account.executeCallData ⟨.account, 0x1234⟩ ⟨0xb0, 1, []⟩).length < 2 ^ 64 := by
    decide +kernel
  have hop : (Account.validateUserOpCallData ⟨.wallet, 0x1234⟩ idleFactoryData 7 8).length
      < 2 ^ 64 := by
    decide +kernel
  have haccepted : IsAccepted (fun _ => none) := by
    intro spec _ value hvalue
    cases henvironment : spec.environment
    all_goals
      rw [henvironment] at hvalue
      cases hvalue
  have hkind : twoTexts.kind (fun _ => none) ≠ .accountManager := by decide +kernel
  have hsender : (twoTexts.settings fun _ => none).sender.toBool = true := by decide +kernel
  have hmetrics : (twoTexts.settings fun _ => none).serveMetrics
      ⟨fun _ => none, fun _ _ => false⟩ = .ok () := rfl
  have hlength : (callDataOf ⟨.wallet, 0x1234⟩ twoTexts.calls).length < 2 ^ 64 := by
    decide +kernel
  obtain ⟨hprints, -, hsays⟩ := hcommand twoTexts _ _ ⟨.wallet, 0x1234⟩ haccepted hkind hsender
    hmetrics
  exact ⟨hcall, hexecute _ _ hcall, hop, hvalidate _ _ _ _ hop, haccepted, hkind, hsender,
    hmetrics, hlength, hprints, hsays hlength⟩

end Cli

end SmartAccount
