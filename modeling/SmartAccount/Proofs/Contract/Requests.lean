import SmartAccount.Account
import SmartAccount.Factory
import SmartAccount.Proofs.Contract.CallData
import SmartAccount.Proofs.Json.Forms
import SmartAccount.Proofs.Rpc.Dialogue
/-!
# What is sent to a contract

A contract is reached in two ways: a question is put by a call, an action is taken by a transaction.
This file reads the one request that each of them makes as a node reads it: whom it goes to, which
function with which arguments the contract decodes its input to, and how many wei go with it
(`Json.Carries`). That holds for every function that a contract declares (`Function.asks`,
`Function.submits`); the questions and the actions of accounts and of the factory are cases of it.
What a question comes to depends on the answer alone (`Function.run_read`).

The same bytes can be had without a node, as call data. That both agree is part of the result
(`requests_carry_call_data`).
-/

namespace SmartAccount

open Contract

/-! ## Requests as a node reads them -/

/-- A message to a contract as a node reads it: it carries the input to the address, the contract
decodes the input to the invocation, with or without validation, and these wei go with it, if
any. -/
structure Json.Carries (message : Json) (k : Kind) (address : Address) (input : Bytes)
    (i : Invocation) (value : Option Word) : Prop where
  recipient_eq : message.get? "to" >>= Json.address? = some address
  input_eq : message.get? "input" >>= Json.bytes? = some input
  decodes : ∀ validate, Invocation.decode k.interface.functions validate input = .ok i
  value_eq : (message.get? "value").map (Json.bits? 256) = value.map some

/-- The request calls a contract as of the latest block. -/
def Request.IsCall (r : Request) (k : Kind) (address : Address) (i : Invocation) : Prop :=
  r.method = "eth_call" ∧ ∃ message,
    r.params = some [message, .string "latest"] ∧ message.Carries k address i.encode i none

/-- The request has the node send a transaction to a contract. -/
def Request.IsTransaction (r : Request) (k : Kind) (address : Address) (input : Bytes)
    (i : Invocation) (value : Option Word) : Prop :=
  r.method = "eth_sendTransaction" ∧ ∃ message,
    r.params = some [message] ∧ message.Carries k address input i value

/-- An exchange makes one request, which calls a contract. -/
def Exchange.Asks {α : Type} (e : Exchange α) (k : Kind) (address : Address) (i : Invocation) :
    Prop :=
  ∃ r : Request, r.IsCall k address i ∧ ∀ {σ : Type} (node : Dialogue.Node σ) (s : σ),
    (Dialogue.run node e.run s).requests = [r]

/-- Sending the transaction makes one request, which has the node send its input to a contract. It
comes to the hash that the node answers, and to none other. -/
def Contract.Transaction.Submits (t : Transaction) (k : Kind) (address : Address) (i : Invocation)
    (value : Option Word) : Prop :=
  ∃ r : Request, r.IsTransaction k address t.input i value
    ∧ ∀ {σ : Type} (node : Dialogue.Node σ) (s : σ),
      (Dialogue.run node t.sendByNode.run s).requests = [r]
        ∧ (∀ hash, (node r s).1 = .ok (.word hash) →
          (Dialogue.run node t.sendByNode.run s).result = .ok hash)
        ∧ ∀ hash, (Dialogue.run node t.sendByNode.run s).result = .ok hash →
          ∃ answer, (node r s).1 = .ok answer ∧ answer.hash? = some hash

theorem Json.hash?_word (w : Word) : hash? (word w) = some w := by
  have hbytes : fixedBytes? 32 (word w) = some w.bytes := by
    show (bytes? (hex w.bytes)).filter (·.length = 32) = some w.bytes
    rw [bytes?_hex]
    simp only [Option.filter_some, Word.length_bytes, decide_true, if_true]
  rw [hash?, hbytes, Option.map_some, Word.ofBytes_bytes]

namespace Contract

/-- The message of a call, with its caller if one is named. -/
def callMessage (caller : Option Address) (contract : Address) (input : Bytes) : Json :=
  .record ((caller.toList.map fun a => ("from", Json.address a)) ++ carriage contract input)

/-- The request that calls a contract with some input. -/
def callRequest (caller : Option Address) (contract : Address) (input : Bytes) : Request :=
  ⟨"eth_call", some [callMessage caller contract input, .string "latest"]⟩

/-- The members of a call's message are where they were put, whoever is named as the caller. -/
theorem get?_callMessage (caller : Option Address) (contract : Address) (input : Bytes) :
    (callMessage caller contract input).get? "from" = caller.map Json.address
      ∧ (callMessage caller contract input).get? "to" = some (.address contract)
      ∧ (callMessage caller contract input).get? "input" = some (.hex input)
      ∧ (callMessage caller contract input).get? "value" = none := by
  cases caller with
  | none => exact ⟨rfl, rfl, rfl, rfl⟩
  | some a => exact ⟨rfl, rfl, rfl, rfl⟩

theorem carries_callMessage {k : Kind} {input : Bytes} {i : Invocation} (caller : Option Address)
    (contract : Address)
    (hdecode : ∀ validate, Invocation.decode k.interface.functions validate input = .ok i) :
    (callMessage caller contract input).Carries k contract input i none := by
  obtain ⟨-, hto, hinput, hvalue⟩ := get?_callMessage caller contract input
  refine ⟨?_, ?_, hdecode, ?_⟩
  · rw [hto]
    exact Json.address?_address contract
  · rw [hinput]
    exact Json.bytes?_hex input
  · rw [hvalue]
    rfl

/-- The message of a transaction, whatever value goes with it. -/
theorem carries_transaction {k : Kind} {input : Bytes} {i : Invocation} (value : Option Word)
    (address : Address)
    (hdecode : ∀ validate, Invocation.decode k.interface.functions validate input = .ok i) :
    (Json.record (carriage address input
      ++ ("type", .string "0x2") :: value.toList.map fun v => ("value", Json.quantity v))).Carries
      k address input i value := by
  refine ⟨?_, ?_, hdecode, ?_⟩
  · cases value <;> exact Json.address?_address address
  · cases value <;> exact Json.bytes?_hex input
  · cases value with
    | none => rfl
    | some v => exact congrArg some (Json.bits?_quantity v)

namespace Function

/-- What returned data comes to for the caller of a function. -/
def returned (f : Function) (data : Bytes) : Except ProviderError f.outputs.Value :=
  match f.decodeReturn false data with
  | .ok value => .ok value
  | .error cause => .error (if data.isEmpty then .noData f.name else .undecodable cause)

/-- **Reading a function** is one call, and comes to what its answer comes to. -/
theorem run_read {σ : Type} (node : Dialogue.Node σ) (f : Function) (contract : Address)
    (args : f.inputs.Value) (caller : Option Address) (s : σ) :
    let r := callRequest caller contract (f.encodeCall args)
    Dialogue.run node (f.read contract args caller).run s
      = ⟨Exchange.reading Json.bytes? (node r s).1 >>= f.returned, [r], 0, (node r s).2⟩ := by
  intro r
  have hcall : Dialogue.run node (Exchange.request "eth_call" r.params Json.bytes?).run s
      = ⟨Exchange.reading Json.bytes? (node r s).1, [r], 0, (node r s).2⟩ :=
    Exchange.run_request node "eth_call" r.params Json.bytes? s
  unfold read
  show Dialogue.run node (Exchange.request "eth_call" r.params Json.bytes? >>= _).run s = _
  rw [Dialogue.run_exceptT_bind, hcall]
  cases Exchange.reading Json.bytes? (node r s).1 with
  | error e => rfl
  | ok data =>
    show Dialogue.Transcript.followedBy _ (Dialogue.run node _ _)
      = Dialogue.Transcript.mk (f.returned data) _ _ _
    unfold returned
    -- what comes of the answer sends nothing more
    cases f.decodeReturn false data <;> rfl

section Declared

variable {k : Kind} {f : Function} (hf : f ∈ k.interface.functions)
include hf

/-- The request for a function that a contract declares calls the contract for it, whoever is named
as the caller. -/
theorem isCall_callRequest (address : Address) (args : f.inputs.Value) (caller : Option Address)
    (hlength : (f.encodeCall args).length < 2 ^ 64) :
    (callRequest caller address (f.encodeCall args)).IsCall k address ⟨f, args⟩ :=
  ⟨rfl, _, rfl, carries_callMessage caller address (k.decode_encode ⟨f, args⟩ hf hlength)⟩

/-- Reading a function that a contract declares asks the contract for it. -/
theorem asks (address : Address) (args : f.inputs.Value) (caller : Option Address)
    (hlength : (f.encodeCall args).length < 2 ^ 64) :
    (f.read address args caller).Asks k address ⟨f, args⟩ := by
  refine ⟨_, isCall_callRequest hf address args caller hlength, ?_⟩
  intro σ node s
  rw [run_read]

/-- The transaction of a function that a contract declares submits it to the contract. -/
theorem submits (address : Address) (args : f.inputs.Value) (value : Option Word)
    (hlength : (f.encodeCall args).length < 2 ^ 64) :
    (f.transaction address args value).Submits k address ⟨f, args⟩ value := by
  have hcarries := carries_transaction value address (k.decode_encode ⟨f, args⟩ hf hlength)
  refine ⟨⟨"eth_sendTransaction", _⟩, ⟨rfl, _, rfl, hcarries⟩, fun node s => ?_⟩
  unfold Transaction.sendByNode
  rw [Exchange.run_request]
  refine ⟨rfl, ?_, ?_⟩
  · intro hash hanswer
    exact Exchange.reading_eq_ok_iff.mpr ⟨_, hanswer, Json.hash?_word hash⟩
  · intro hash hresult
    exact Exchange.reading_eq_ok_iff.mp hresult

end Declared

end Function

end Contract

theorem Exchange.Asks.map {α β : Type} {e : Exchange α} {k : Kind} {address : Address}
    {i : Contract.Invocation} (h : e.Asks k address i) (f : α → β) :
    Exchange.Asks (f <$> e) k address i := by
  obtain ⟨r, hcall, hrequests⟩ := h
  refine ⟨r, hcall, fun node s => ?_⟩
  rw [requests_map]
  exact hrequests node s

/-! ## Accounts -/

/-- The questions that an account answers. -/
inductive Account.Question where
  | entryPoint
  | owner
  | nonce
  | deposit
  | isValidSignature (hash : Hash) (signature : Bytes)
  | supportsInterface (interfaceId : BitVec 32)

/-- The actions that an account takes. -/
inductive Account.Action where
  | execute (call : Call)
  | executeBatch (calls : List Call)
  | addDeposit (value : Word)
  | withdrawDepositTo (recipient : Address) (amount : Word)
  | setOwner (owner : Address)
  | transferOwnership (newOwner : Address)

namespace Account

namespace Question

/-- Wallets are not asked for interfaces. -/
def isFor (kind : AccountKind) : Question → Bool
  | .supportsInterface _ => kind = .account
  | _ => true

@[reducible] def Answer : Question → Type
  | .entryPoint => Address
  | .owner => Address
  | .nonce => Word
  | .deposit => Word
  | .isValidSignature _ _ => Bool
  | .supportsInterface _ => Bool

/-- The function that answers the question, with its arguments. -/
def invocation : Question → Contract.Invocation
  | .entryPoint => ⟨.entryPoint, ()⟩
  | .owner => ⟨.owner, ()⟩
  | .nonce => ⟨.getNonce, ()⟩
  | .deposit => ⟨.getDeposit, ()⟩
  | .isValidSignature hash signature => ⟨.isValidSignature, (hash, signature, ())⟩
  | .supportsInterface interfaceId => ⟨.supportsInterface, (interfaceId, ())⟩

end Question

/-- Puts a question to an account. -/
def ask (a : Account) : (q : Question) → Exchange q.Answer
  | .entryPoint => a.entryPoint
  | .owner => a.owner
  | .nonce => a.nonce
  | .deposit => a.deposit
  | .isValidSignature hash signature => a.isValidSignature hash signature
  | .supportsInterface interfaceId => a.supportsInterface interfaceId

namespace Action

/-- Only a fresh account is given an owner, and only a wallet is handed over. -/
def isFor (kind : AccountKind) : Action → Bool
  | .setOwner _ => kind = .account
  | .transferOwnership _ => kind = .wallet
  | _ => true

/-- The function that does it, with its arguments. -/
def invocation : Action → Contract.Invocation
  | .execute call => ⟨.execute, (call.target, call.value, call.data, ())⟩
  | .executeBatch calls => ⟨.executeBatch, (calls.map callValue, ())⟩
  | .addDeposit _ => ⟨.addDeposit, ()⟩
  | .withdrawDepositTo recipient amount => ⟨.withdrawDepositTo, (recipient, amount, ())⟩
  | .setOwner owner => ⟨.initializeOwner, (owner, ())⟩
  | .transferOwnership newOwner => ⟨.transferOwnership, (newOwner, ())⟩

/-- The wei that go with it. -/
def value? : Action → Option Word
  | .addDeposit value => some value
  | _ => none

end Action

/-- The transaction by which an account takes an action. -/
def transaction (a : Account) : Action → Transaction
  | .execute call => a.execute call
  | .executeBatch calls => a.executeBatch calls
  | .addDeposit value => a.addDeposit value
  | .withdrawDepositTo recipient amount => a.withdrawDepositTo recipient amount
  | .setOwner owner => a.setOwner owner
  | .transferOwnership newOwner => a.transferOwnership newOwner

theorem mem_functions_of_question {kind : AccountKind} {q : Question}
    (h : q.isFor kind = true) : q.invocation.function ∈ kind.contract.interface.functions := by
  cases q with
  | supportsInterface interfaceId =>
    obtain rfl : kind = .account := of_decide_eq_true h
    exact of_decide_eq_true rfl
  | _ => cases kind <;> exact of_decide_eq_true rfl

theorem validateUserOp_mem_functions (kind : AccountKind) :
    Function.validateUserOp ∈ kind.contract.interface.functions := by
  cases kind <;> decide

theorem mem_functions_of_action {kind : AccountKind} {action : Action}
    (h : action.isFor kind = true) :
    action.invocation.function ∈ kind.contract.interface.functions := by
  cases action with
  | setOwner owner =>
    obtain rfl : kind = .account := of_decide_eq_true h
    exact of_decide_eq_true rfl
  | transferOwnership newOwner =>
    obtain rfl : kind = .wallet := of_decide_eq_true h
    exact of_decide_eq_true rfl
  | _ => cases kind <;> exact of_decide_eq_true rfl

theorem ask_asks (a : Account) (q : Question) (h : q.isFor a.kind = true)
    (hlength : q.invocation.encode.length < 2 ^ 64) :
    (a.ask q).Asks a.kind.contract a.address q.invocation := by
  have hask := Function.asks (mem_functions_of_question h) a.address q.invocation.args none hlength
  cases q <;> exact hask.map _

theorem transaction_submits (a : Account) (action : Action) (h : action.isFor a.kind = true)
    (hlength : action.invocation.encode.length < 2 ^ 64) :
    (a.transaction action).Submits a.kind.contract a.address action.invocation action.value? := by
  have hsubmit := Function.submits (mem_functions_of_action h) a.address action.invocation.args
    action.value? hlength
  cases action <;> exact hsubmit

/-- Asked to validate a user operation as its entry point would, an account is first asked for the
entry point. Only if that is known, it is asked to validate the packed operation. -/
theorem simulateValidation_asks (a : Account) (op : UserOperation) (hash : Hash) (funds : Word)
    (hlength : (a.validateUserOpCallData op hash funds).length < 2 ^ 64) :
    ∃ first : Request, first.IsCall a.kind.contract a.address ⟨.entryPoint, ()⟩
      ∧ ∀ {σ : Type} (node : Dialogue.Node σ) (s : σ),
        match (Dialogue.run node a.entryPoint.run s).result with
        | .error _ =>
          (Dialogue.run node (a.simulateValidation op hash funds).run s).requests = [first]
        | .ok _ => ∃ second : Request, second.IsCall a.kind.contract a.address
            ⟨.validateUserOp, (packedValue op.pack, hash, funds, ())⟩
          ∧ (Dialogue.run node (a.simulateValidation op hash funds).run s).requests
            = [first, second] := by
  obtain ⟨first, hfirst, hrequests⟩ := a.ask_asks .entryPoint rfl (by decide +kernel)
  refine ⟨first, hfirst, fun node s => ?_⟩
  have hrequest : (Dialogue.run node a.entryPoint.run s).requests = [first] := hrequests node s
  unfold simulateValidation
  rw [Exchange.requests_bind, hrequest]
  cases (Dialogue.run node a.entryPoint.run s).result with
  | error e => rfl
  | ok entryPoint =>
    have hread := Function.asks (validateUserOp_mem_functions a.kind) a.address
      (packedValue op.pack, hash, funds, ()) (some entryPoint) hlength
    obtain ⟨second, hsecond, hrequests⟩ := hread.map fun answer => ValidationData.ofWord answer.1
    exact ⟨second, hsecond, congrArg (first :: ·) (hrequests node _)⟩

end Account

/-! ## The factory -/

/-- The questions that the factory answers. -/
inductive Factory.Question where
  | accountImplementation
  | entryPoint
  | owner
  | accountAddress (owner : Address) (salt : Word)
  | isAccount (account : Address)

/-- The actions that the factory takes. -/
inductive Factory.Action where
  | createAccount (owner : Address) (salt : Word)
  | addStake (unstakeDelay : BitVec 32) (value : Word)
  | unlockStake
  | withdrawStake (recipient : Address)

namespace Factory

@[reducible] def Question.Answer : Question → Type
  | .accountImplementation => Address
  | .entryPoint => Address
  | .owner => Address
  | .accountAddress _ _ => Address
  | .isAccount _ => Bool

/-- The function that answers the question, with its arguments. -/
def Question.invocation : Question → Contract.Invocation
  | .accountImplementation => ⟨.accountImplementation, ()⟩
  | .entryPoint => ⟨.entryPoint, ()⟩
  | .owner => ⟨.owner, ()⟩
  | .accountAddress holder salt => ⟨.getAddress, (holder, salt, ())⟩
  | .isAccount account => ⟨.isAccount, (account, ())⟩

/-- Puts a question to the factory. -/
def ask (f : Factory) : (q : Question) → Exchange q.Answer
  | .accountImplementation => f.accountImplementation
  | .entryPoint => f.entryPoint
  | .owner => f.owner
  | .accountAddress owner salt => f.accountAddress owner salt
  | .isAccount account => f.isAccount account

/-- The function that does it, with its arguments. -/
def Action.invocation : Action → Contract.Invocation
  | .createAccount owner salt => ⟨.createAccount, (owner, salt, ())⟩
  | .addStake unstakeDelay _ => ⟨.addStake, (unstakeDelay, ())⟩
  | .unlockStake => ⟨.unlockStake, ()⟩
  | .withdrawStake recipient => ⟨.withdrawStake, (recipient, ())⟩

/-- The wei that go with it. -/
def Action.value? : Action → Option Word
  | .addStake _ value => some value
  | _ => none

/-- The transaction by which the factory takes an action. -/
def transaction (f : Factory) : Action → Transaction
  | .createAccount owner salt => f.createAccount owner salt
  | .addStake unstakeDelay value => f.addStake unstakeDelay value
  | .unlockStake => f.unlockStake
  | .withdrawStake recipient => f.withdrawStake recipient

/-- The functions of the factory take no lists and no byte strings, so their call data is short. -/
theorem length_encodeCall {f : Function} (hf : f ∈ accountManager.functions)
    (args : f.inputs.Value) : (f.encodeCall args).length < 2 ^ 64 := by
  have hstatic : ∀ f ∈ accountManager.functions,
      f.inputs.isDynamic = false ∧ f.inputs.headSize ≤ 64 := by decide
  obtain ⟨hinputs, hsize⟩ := hstatic f hf
  rw [Function.encodeCall, List.length_append, Function.length_selector,
    Abi.Fields.length_encode_of_static args hinputs]
  omega

theorem ask_asks (f : Factory) (q : Question) :
    (f.ask q).Asks .accountManager f.address q.invocation := by
  have hmem : q.invocation.function ∈ Kind.accountManager.interface.functions := by
    cases q <;> exact of_decide_eq_true rfl
  have hask := Function.asks hmem f.address q.invocation.args none (length_encodeCall hmem _)
  cases q <;> exact hask.map _

theorem transaction_submits (f : Factory) (action : Action) :
    (f.transaction action).Submits .accountManager f.address action.invocation action.value? := by
  have hmem : action.invocation.function ∈ Kind.accountManager.interface.functions := by
    cases action <;> exact of_decide_eq_true rfl
  have hsubmit := Function.submits hmem f.address action.invocation.args action.value?
    (length_encodeCall hmem _)
  cases action <;> exact hsubmit

end Factory

/-- **What is sent is what can be had as call data.** For every account of either kind and every
factory, at whatever address:

Each action is one transaction to that address, whose input the contract decodes to the function of
the action with its arguments; wei go with it only where a deposit or a stake is paid, and then
those that were given; and sending it comes to the hash that the node answers. Each question is one
call to that address, whose input is decoded in the same way. To simulate a validation takes two
calls, for the entry point and then for the validation.

To execute one call or several, and to create an account, takes the call data that can be had
without sending, byte for byte.

The bound on the length is that of a byte string in memory, which has a length of 64 bits. The
factory takes no byte strings, so it needs none. -/
theorem requests_carry_call_data (a : Account) (f : Factory) :
    (∀ action : Account.Action, action.isFor a.kind = true →
        action.invocation.encode.length < 2 ^ 64 →
        (a.transaction action).Submits a.kind.contract a.address action.invocation action.value?)
      ∧ (∀ q : Account.Question, q.isFor a.kind = true → q.invocation.encode.length < 2 ^ 64 →
        (a.ask q).Asks a.kind.contract a.address q.invocation)
      ∧ (∀ op hash funds, (a.validateUserOpCallData op hash funds).length < 2 ^ 64 →
        ∃ first : Request, first.IsCall a.kind.contract a.address ⟨.entryPoint, ()⟩
          ∧ ∀ {σ : Type} (node : Dialogue.Node σ) (s : σ),
            match (Dialogue.run node a.entryPoint.run s).result with
            | .error _ =>
              (Dialogue.run node (a.simulateValidation op hash funds).run s).requests = [first]
            | .ok _ => ∃ second : Request, second.IsCall a.kind.contract a.address
                ⟨.validateUserOp, (packedValue op.pack, hash, funds, ())⟩
              ∧ (Dialogue.run node (a.simulateValidation op hash funds).run s).requests
                = [first, second])
      ∧ (∀ action : Factory.Action,
        (f.transaction action).Submits .accountManager f.address action.invocation action.value?)
      ∧ (∀ q : Factory.Question, (f.ask q).Asks .accountManager f.address q.invocation)
      ∧ (∀ call, (a.execute call).input = a.executeCallData call)
      ∧ (∀ calls, (a.executeBatch calls).input = a.executeBatchCallData calls)
      ∧ ∀ owner salt, (f.createAccount owner salt).input = f.createAccountCallData owner salt :=
  ⟨a.transaction_submits, a.ask_asks, a.simulateValidation_asks, f.transaction_submits, f.ask_asks,
    fun _ => rfl, fun _ => rfl, fun _ _ => rfl⟩

/-- A call that carries data, and one that carries none. -/
def batchOfTwo : List Call := [⟨0x1234, 1, [0xab]⟩, ⟨0x5678, 2, []⟩]

/-- A batch of two calls by a wallet, and a stake of one wei for a day. -/
theorem requests_carry_call_data_wallet :
    Account.Action.isFor .wallet (.executeBatch batchOfTwo) = true
      ∧ (Account.Action.invocation (.executeBatch batchOfTwo)).encode.length < 2 ^ 64
      ∧ Transaction.Submits (Account.executeBatch ⟨.wallet, 0xa11ce⟩ batchOfTwo) .aaWallet 0xa11ce
        ⟨.executeBatch, (batchOfTwo.map callValue, ())⟩ none
      ∧ Transaction.Submits (Factory.addStake ⟨0xfac70⟩ 86400 1) .accountManager 0xfac70
        ⟨.addStake, ((86400 : BitVec 32), ())⟩ (some 1) := by
  have hlength : (Account.Action.invocation (.executeBatch batchOfTwo)).encode.length < 2 ^ 64 := by
    decide +kernel
  obtain ⟨haccount, -, -, hfactory, -⟩ :=
    requests_carry_call_data ⟨.wallet, 0xa11ce⟩ ⟨0xfac70⟩
  exact ⟨rfl, hlength, haccount _ rfl hlength, hfactory (.addStake 86400 1)⟩

end SmartAccount
