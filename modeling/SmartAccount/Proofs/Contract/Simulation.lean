import SmartAccount.Proofs.Contract.Requests
/-!
# A simulated validation is asked for in the name of the entry point

An account only answers its entry point when it is asked to validate an operation. To simulate this
takes two requests, and the second depends on the answer to the first: the caller it names is the
address that the first one came to.

Both functions that are called return one word. What an answer to such a call comes to is a relation
with one case for each way to end (`Function.ReturnsWord`), which is total and unambiguous
(`exists_returnsWord`, `ReturnsWord.unique`). With it the simulation is known from the two answers:
`simulateValidation_cases` goes through the first one, and the second is asked for only if the
first is a word.
-/

namespace SmartAccount

open Contract

/-! ## Calls -/

/-- The request calls a contract as of the latest block: a node reads this caller, if any, this
contract and this input in it, and no wei. -/
structure Request.IsCallBy (r : Request) (caller : Option Address) (contract : Address)
    (input : Bytes) : Prop where
  method_eq : r.method = "eth_call"
  message : ∃ message, r.params = some [message, .string "latest"]
    ∧ (message.get? "from").map Json.address? = caller.map some
    ∧ message.get? "to" >>= Json.address? = some contract
    ∧ message.get? "input" >>= Json.bytes? = some input
    ∧ message.get? "value" = none

theorem isCallBy_callRequest (caller : Option Address) (contract : Address) (input : Bytes) :
    (callRequest caller contract input).IsCallBy caller contract input := by
  obtain ⟨hfrom, hto, hinput, hvalue⟩ := get?_callMessage caller contract input
  refine ⟨rfl, _, rfl, ?_, ?_, ?_, hvalue⟩
  · rw [hfrom]
    cases caller with
    | none => rfl
    | some a => exact congrArg some (Json.address?_address a)
  · rw [hto]
    exact Json.address?_address contract
  · rw [hinput]
    exact Json.bytes?_hex input

/-! ## What comes of an answer -/

namespace Contract.Function

/-- What an answer comes to for a function that returns one word: the first word of what was
returned, or the reason why there is none. -/
inductive ReturnsWord (f : Function) : Answer → Except ProviderError Word → Prop where
  | word {json : Json} {data : Bytes} (hread : json.bytes? = some data)
    (hlength : 32 ≤ data.length) : ReturnsWord f (.ok json) (.ok (.ofBytes (data.take 32)))
  /-- The request failed. -/
  | failed (e : RpcError) : ReturnsWord f (.error e) (.error (.rpc e))
  /-- The answer is no byte string. -/
  | malformed {json : Json} (hread : json.bytes? = none) :
    ReturnsWord f (.ok json) (.error (.rpc (.malformed json.compact)))
  | empty {json : Json} (hread : json.bytes? = some []) :
    ReturnsWord f (.ok json) (.error (.noData f.name))
  | short {json : Json} {data : Bytes} (hread : json.bytes? = some data) (hdata : data ≠ [])
    (hlength : data.length < 32) : ReturnsWord f (.ok json) (.error (.undecodable .overrun))

/-- A node that answers one word gives that word. -/
theorem returnsWord_word (f : Function) (w : Word) : f.ReturnsWord (.ok (.word w)) (.ok w) := by
  have h := ReturnsWord.word (f := f) (Json.bytes?_hex w.bytes) (Nat.le_of_eq w.length_bytes.symm)
  rwa [List.take_of_length_le (Nat.le_of_eq w.length_bytes), Word.ofBytes_bytes] at h

theorem ReturnsWord.unique {f : Function} {answer : Answer} {x y : Except ProviderError Word}
    (hx : f.ReturnsWord answer x) (hy : f.ReturnsWord answer y) : x = y := by
  cases hx with
  | word hread hlength => cases hy <;> grind
  | failed e => cases hy; rfl
  | malformed hread => cases hy <;> grind
  | empty hread => cases hy <;> grind
  | short hread hdata hlength => cases hy <;> grind

section OneWord

variable (name : String) (inputs : Abi.Fields) (returnName declared : String) (t : Abi.WordTy)
  (mutability : Mutability)

/-- A function that returns one word. -/
abbrev oneWord : Function :=
  ⟨name, inputs, .cons returnName declared (.word t) .nil, mutability⟩

/-- One word is decoded from the first 32 bytes, and whatever stands behind them. -/
theorem decodeReturn_oneWord (data : Bytes) :
    (oneWord name inputs returnName declared t mutability).decodeReturn false data
      = if 32 ≤ data.length then .ok (t.ofWord (.ofBytes (data.take 32)), ())
        else .error .overrun := by
  have hlength : (data.take 32).length = 32 ↔ 32 ≤ data.length := by
    rw [List.length_take]
    omega
  have hword : Abi.wordAt data 0
      = if 32 ≤ data.length then .ok (.ofBytes (data.take 32)) else .error .overrun := by
    unfold Abi.wordAt
    rw [List.drop_zero]
    simp only [hlength]
  show (Abi.Fields.read (.cons returnName declared (.word t) .nil) data 0 >>= fun r =>
    r.accept false) = _
  rw [Abi.Fields.read, Abi.Ty.read, hword]
  by_cases h : 32 ≤ data.length
  · rw [if_pos h, if_pos h]
    rfl
  · rw [if_neg h, if_neg h]
    rfl

/-- What the caller of such a function gets is the word that it returns. -/
theorem exists_returnsWord (answer : Answer) :
    ∃ outcome, (oneWord name inputs returnName declared t mutability).ReturnsWord answer outcome
      ∧ (Exchange.reading Json.bytes? answer
          >>= (oneWord name inputs returnName declared t mutability).returned)
        = outcome.map fun w => (t.ofWord w, ()) := by
  cases answer with
  | error e => exact ⟨_, .failed e, rfl⟩
  | ok json =>
    cases hread : json.bytes? with
    | none =>
      refine ⟨_, .malformed hread, ?_⟩
      simp only [Exchange.reading, hread]
      rfl
    | some data =>
      have hreading : Exchange.reading Json.bytes? (.ok json) = .ok data := by
        simp only [Exchange.reading, hread]
      rw [hreading]
      show ∃ outcome, _ ∧ returned _ data = _
      unfold returned
      rw [decodeReturn_oneWord]
      by_cases hlength : 32 ≤ data.length
      · refine ⟨_, .word hread hlength, ?_⟩
        rw [if_pos hlength]
        rfl
      · rw [if_neg hlength]
        by_cases hdata : data = []
        · subst hdata
          exact ⟨_, .empty hread, rfl⟩
        · refine ⟨_, .short hread hdata (by omega), ?_⟩
          show Except.error (if data.isEmpty then _ else _) = Except.error _
          rw [if_neg (by rwa [List.isEmpty_iff])]

/-- **Reading one word** and making something of it is one call, and comes to what is made of the
word that its answer comes to. -/
theorem run_map_read {σ α : Type} (node : Dialogue.Node σ) (h : t.Value → α) (contract : Address)
    (args : inputs.Value) (caller : Option Address) (s : σ) :
    let f := oneWord name inputs returnName declared t mutability
    let r := callRequest caller contract (f.encodeCall args)
    ∃ outcome, f.ReturnsWord (node r s).1 outcome
      ∧ Dialogue.run node
          ((fun v : t.Value × Unit => h v.1) <$> (f.read contract args caller : Exchange _)).run s
        = ⟨outcome.map fun w => h (t.ofWord w), [r], 0, (node r s).2⟩ := by
  intro f r
  obtain ⟨outcome, hreturns, hvalue⟩ :=
    exists_returnsWord name inputs returnName declared t mutability (node r s).1
  refine ⟨outcome, hreturns, ?_⟩
  rw [Exchange.run_map, run_read]
  show Dialogue.Transcript.mk (Except.map _ (Exchange.reading Json.bytes? (node r s).1
    >>= f.returned)) _ _ _ = _
  rw [hvalue]
  cases outcome <;> rfl

end OneWord

end Contract.Function

namespace Account

variable (a : Account) (op : UserOperation) (hash : Hash) (funds : Word)

/-- The question for the entry point, which anyone may ask. -/
def entryPointRequest : Request :=
  callRequest none a.address (Function.entryPoint.encodeCall ())

/-- The question whether an operation is valid, put in the name of the address in a word. -/
def validationRequest (w : Word) : Request :=
  callRequest (some (Address.ofWord w)) a.address (a.validateUserOpCallData op hash funds)

/-- The contract decodes the first question to that for the entry point. -/
theorem entryPointRequest_isCall :
    a.entryPointRequest.IsCall a.kind.contract a.address ⟨.entryPoint, ()⟩ :=
  Function.isCall_callRequest (f := .entryPoint) (mem_functions_of_question (q := .entryPoint) rfl)
    a.address () none (by decide +kernel)

/-- The contract decodes the second question to the validation of the packed operation. -/
theorem validationRequest_isCall
    (hlength : (a.validateUserOpCallData op hash funds).length < 2 ^ 64) (w : Word) :
    (a.validationRequest op hash funds w).IsCall a.kind.contract a.address
      ⟨.validateUserOp, (packedValue op.pack, hash, funds, ())⟩ :=
  Function.isCall_callRequest (validateUserOp_mem_functions a.kind) a.address _ _ hlength

variable {σ : Type} (node : Dialogue.Node σ) (s : σ)

theorem run_entryPoint :
    ∃ outcome, Function.entryPoint.ReturnsWord (node a.entryPointRequest s).1 outcome
      ∧ Dialogue.run node a.entryPoint.run s
        = ⟨outcome.map Address.ofWord, [a.entryPointRequest], 0,
          (node a.entryPointRequest s).2⟩ :=
  Function.run_map_read _ _ _ _ _ _ node id a.address () none s

theorem run_validation (w : Word) :
    ∃ outcome, Function.validateUserOp.ReturnsWord (node (a.validationRequest op hash funds w) s).1
        outcome
      ∧ Dialogue.run node ((fun v : Word × Unit => ValidationData.ofWord v.1) <$>
          (Function.validateUserOp.read a.address (packedValue op.pack, hash, funds, ())
            (some (Address.ofWord w)) : Exchange _)).run s
        = ⟨outcome.map ValidationData.ofWord, [a.validationRequest op hash funds w], 0,
          (node (a.validationRequest op hash funds w) s).2⟩ := by
  have hword : (fun w : Word => ValidationData.ofWord ((Abi.WordTy.uint 256).ofWord w))
      = ValidationData.ofWord := by
    funext w
    exact congrArg ValidationData.ofWord (BitVec.setWidth_eq w)
  obtain ⟨outcome, hreturns, hrun⟩ := Function.run_map_read "validateUserOp"
    Function.validateUserOp.inputs "validationData" Abi.Ty.uint256.declared (.uint 256) .nonpayable
    node ValidationData.ofWord a.address (packedValue op.pack, hash, funds, ())
    (some (Address.ofWord w)) s
  rw [hword] at hrun
  exact ⟨outcome, hreturns, hrun⟩

/-- What the node answers to the first question. -/
def entryPointAnswer : Answer := (node a.entryPointRequest s).1

/-- What it then answers to the second one. -/
def validationAnswer (w : Word) : Answer :=
  (node (a.validationRequest op hash funds w) (node a.entryPointRequest s).2).1

/-- **Everything a simulation can do**: it ends with the failure of the first call, or the first
call gives a word and the second one is made with it, and what that comes to is the end. -/
theorem simulateValidation_cases :
    (∃ e, Function.entryPoint.ReturnsWord (a.entryPointAnswer node s) (.error e)
        ∧ Dialogue.run node (a.simulateValidation op hash funds).run s
          = ⟨.error e, [a.entryPointRequest], 0, (node a.entryPointRequest s).2⟩)
      ∨ ∃ w outcome, Function.entryPoint.ReturnsWord (a.entryPointAnswer node s) (.ok w)
        ∧ Function.validateUserOp.ReturnsWord (a.validationAnswer op hash funds node s w) outcome
        ∧ Dialogue.run node (a.simulateValidation op hash funds).run s
          = ⟨outcome.map ValidationData.ofWord,
            [a.entryPointRequest, a.validationRequest op hash funds w], 0,
            (node (a.validationRequest op hash funds w) (node a.entryPointRequest s).2).2⟩ := by
  obtain ⟨first, hfirst, hentryPoint⟩ := a.run_entryPoint node s
  unfold simulateValidation
  rw [Dialogue.run_exceptT_bind, hentryPoint]
  cases first with
  | error e => exact .inl ⟨e, hfirst, rfl⟩
  | ok w =>
    obtain ⟨outcome, hsecond, hvalidation⟩ :=
      a.run_validation op hash funds node (node a.entryPointRequest s).2 w
    refine .inr ⟨w, outcome, hfirst, hsecond, ?_⟩
    exact congrArg (Dialogue.Transcript.followedBy ⟨Except.ok (Address.ofWord w),
      [a.entryPointRequest], 0, (node a.entryPointRequest s).2⟩) hvalidation

/-- The second question is put exactly if a word came of the first one. -/
theorem requests_simulateValidation :
    (∃ e, Function.entryPoint.ReturnsWord (a.entryPointAnswer node s) (.error e)
        ∧ (Dialogue.run node (a.simulateValidation op hash funds).run s).requests
          = [a.entryPointRequest])
      ∨ ∃ w, Function.entryPoint.ReturnsWord (a.entryPointAnswer node s) (.ok w)
        ∧ (Dialogue.run node (a.simulateValidation op hash funds).run s).requests
          = [a.entryPointRequest, a.validationRequest op hash funds w] := by
  rcases a.simulateValidation_cases op hash funds node s with
    ⟨e, hfirst, hrun⟩ | ⟨w, outcome, hfirst, -, hrun⟩
  · exact .inl ⟨e, hfirst, by rw [hrun]⟩
  · exact .inr ⟨w, hfirst, by rw [hrun]⟩

theorem simulateValidation_eq_ok_iff {v : ValidationData} :
    (Dialogue.run node (a.simulateValidation op hash funds).run s).result = .ok v
      ↔ ∃ w word, Function.entryPoint.ReturnsWord (a.entryPointAnswer node s) (.ok w)
        ∧ Function.validateUserOp.ReturnsWord (a.validationAnswer op hash funds node s w)
          (.ok word)
        ∧ v = ValidationData.ofWord word := by
  rcases a.simulateValidation_cases op hash funds node s with
    ⟨e, hfirst, hrun⟩ | ⟨w, outcome, hfirst, hsecond, hrun⟩
  · rw [hrun]
    refine iff_of_false nofun ?_
    rintro ⟨w, -, hword, -⟩
    exact nomatch hfirst.unique hword
  · rw [hrun]
    show outcome.map ValidationData.ofWord = .ok v ↔ _
    constructor
    · intro h
      cases outcome with
      | error e => exact nomatch h
      | ok word =>
        cases h
        exact ⟨w, word, hfirst, hsecond, rfl⟩
    · rintro ⟨w', word, hfirst', hsecond', rfl⟩
      cases hfirst.unique hfirst'
      rw [hsecond.unique hsecond']
      rfl

theorem simulateValidation_eq_error_iff {e : ProviderError} :
    (Dialogue.run node (a.simulateValidation op hash funds).run s).result = .error e
      ↔ Function.entryPoint.ReturnsWord (a.entryPointAnswer node s) (.error e)
        ∨ ∃ w, Function.entryPoint.ReturnsWord (a.entryPointAnswer node s) (.ok w)
          ∧ Function.validateUserOp.ReturnsWord (a.validationAnswer op hash funds node s w)
            (.error e) := by
  rcases a.simulateValidation_cases op hash funds node s with
    ⟨e', hfirst, hrun⟩ | ⟨w, outcome, hfirst, hsecond, hrun⟩
  · rw [hrun]
    show Except.error e' = .error e ↔ _
    constructor
    · intro h
      cases h
      exact .inl hfirst
    · rintro (herror | ⟨w, hword, -⟩)
      · exact congrArg _ (Except.error.inj (hfirst.unique herror))
      · exact nomatch hfirst.unique hword
  · rw [hrun]
    show outcome.map ValidationData.ofWord = .error e ↔ _
    constructor
    · intro h
      cases outcome with
      | error e' =>
        cases h
        exact .inr ⟨w, hfirst, hsecond⟩
      | ok word => exact nomatch h
    · rintro (herror | ⟨w', hfirst', hsecond'⟩)
      · exact nomatch hfirst.unique herror
      · cases hfirst.unique hfirst'
        rw [hsecond.unique hsecond']
        rfl

/-- **A simulated validation asks the right question as the right caller.** The account is asked for
its entry point, by an input that its contract decodes to just that. If no word comes of it, nothing
more is sent; if one does, the address in it is named as the caller of one more call to the account.
The input of that one is the call data to validate the operation, and the contract decodes it to the
validation of the packed operation with this hash and these funds. The simulation has a result
exactly if both calls give a word, and then it is what the second word says; and it fails exactly
with what either call fails with.

The bound on the length is that of a byte string in memory. -/
theorem simulation_asks_as_entryPoint :
    a.entryPointRequest.IsCallBy none a.address (Function.entryPoint.encodeCall ())
      ∧ a.entryPointRequest.IsCall a.kind.contract a.address ⟨.entryPoint, ()⟩
      ∧ (∀ w, (a.validationRequest op hash funds w).IsCallBy (some (Address.ofWord w)) a.address
        (a.validateUserOpCallData op hash funds))
      ∧ ((a.validateUserOpCallData op hash funds).length < 2 ^ 64 → ∀ w,
        (a.validationRequest op hash funds w).IsCall a.kind.contract a.address
          ⟨.validateUserOp, (packedValue op.pack, hash, funds, ())⟩)
      ∧ ((∃ e, Function.entryPoint.ReturnsWord (a.entryPointAnswer node s) (.error e)
          ∧ (Dialogue.run node (a.simulateValidation op hash funds).run s).requests
            = [a.entryPointRequest])
        ∨ ∃ w, Function.entryPoint.ReturnsWord (a.entryPointAnswer node s) (.ok w)
          ∧ (Dialogue.run node (a.simulateValidation op hash funds).run s).requests
            = [a.entryPointRequest, a.validationRequest op hash funds w])
      ∧ (∀ v, (Dialogue.run node (a.simulateValidation op hash funds).run s).result = .ok v
        ↔ ∃ w word, Function.entryPoint.ReturnsWord (a.entryPointAnswer node s) (.ok w)
          ∧ Function.validateUserOp.ReturnsWord (a.validationAnswer op hash funds node s w)
            (.ok word)
          ∧ v = ValidationData.ofWord word)
      ∧ ∀ e, (Dialogue.run node (a.simulateValidation op hash funds).run s).result = .error e
        ↔ Function.entryPoint.ReturnsWord (a.entryPointAnswer node s) (.error e)
          ∨ ∃ w, Function.entryPoint.ReturnsWord (a.entryPointAnswer node s) (.ok w)
            ∧ Function.validateUserOp.ReturnsWord (a.validationAnswer op hash funds node s w)
              (.error e) := by
  refine ⟨isCallBy_callRequest _ _ _, a.entryPointRequest_isCall, ?_,
    a.validationRequest_isCall op hash funds, ?_, ?_, ?_⟩
  · intro w
    exact isCallBy_callRequest _ _ _
  · exact a.requests_simulateValidation op hash funds node s
  · intro v
    exact a.simulateValidation_eq_ok_iff op hash funds node s
  · intro e
    exact a.simulateValidation_eq_error_iff op hash funds node s

/-- An operation of a wallet that deploys it. -/
def firstOperation : UserOperation where
  sender := 0xa11ce
  nonce := 7
  factory := some 0xfac70
  factoryData := [0xfd]
  callData := [0xca, 0x11]
  callGasLimit := 1
  verificationGasLimit := 2
  preVerificationGas := 3
  maxPriorityFeePerGas := 4
  maxFeePerGas := 5
  paymaster := none
  paymasterVerificationGasLimit := 0
  paymasterPostOpGasLimit := 0
  paymasterData := []
  signature := [0x51]

/-- A word that says valid from second 100 to second 200. -/
def hundredSeconds : Word := 100 <<< 208 ||| 200 <<< 160

/-- The node answers both calls: first the address of the entry point, then a word. -/
theorem simulation_asks_as_entryPoint_bothAnswer :
    let wallet : Account := ⟨.wallet, 0xa11ce⟩
    let simulation := Dialogue.run (Dialogue.queue (.ok .null))
      (wallet.simulateValidation firstOperation 0x4a54 9).run
      [.ok (.word 0x4337), .ok (.word hundredSeconds)]
    (wallet.validateUserOpCallData firstOperation 0x4a54 9).length < 2 ^ 64
      ∧ simulation.requests
        = [wallet.entryPointRequest, wallet.validationRequest firstOperation 0x4a54 9 0x4337]
      ∧ wallet.entryPointRequest.IsCall .aaWallet 0xa11ce ⟨.entryPoint, ()⟩
      ∧ (wallet.validationRequest firstOperation 0x4a54 9 0x4337).IsCall .aaWallet 0xa11ce
        ⟨.validateUserOp, (packedValue firstOperation.pack, (0x4a54 : Hash), (9 : Word), ())⟩
      ∧ simulation.result = .ok ⟨0, 100, 200⟩ := by
  intro wallet simulation
  have hlength : (wallet.validateUserOpCallData firstOperation 0x4a54 9).length < 2 ^ 64 := by
    decide +kernel
  obtain ⟨-, hfirst, -, hsecond, hrequests, hresult, -⟩ :=
    wallet.simulation_asks_as_entryPoint firstOperation 0x4a54 9 (Dialogue.queue (.ok .null))
      [.ok (.word 0x4337), .ok (.word hundredSeconds)]
  have hentryPoint := Function.entryPoint.returnsWord_word 0x4337
  refine ⟨hlength, ?_, hfirst, hsecond hlength 0x4337, (hresult _).mpr ⟨0x4337, hundredSeconds,
    hentryPoint, Function.validateUserOp.returnsWord_word _, by decide⟩⟩
  rcases hrequests with ⟨e, herror, -⟩ | ⟨w, hword, hrequests⟩
  · exact nomatch hentryPoint.unique herror
  · cases hentryPoint.unique hword
    exact hrequests

end Account

end SmartAccount
