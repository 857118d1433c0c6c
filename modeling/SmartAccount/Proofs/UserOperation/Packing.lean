import Mathlib.Data.List.Induction
import SmartAccount.Proofs.WordBytes
import SmartAccount.UserOperation.Basic
/-!
# Packing loses nothing that reaches the chain

Packing writes four amounts of 128 bits into two words and up to six fields into two byte strings;
unpacking cuts them out again at fixed places. What is lost on the way is what hangs on an absent
factory or an absent paymaster, and nothing else: `unpack_pack` says that the operation comes
back in normal form.

Operations that are built step by step are in normal form from the start, since only a step that
names a factory or a paymaster sets what hangs on it. `build_eq` gives what the steps amount to:
of the steps of either kind, the last one counts.

`packing_lossless` puts the two together.
-/

namespace SmartAccount

namespace Gas

@[simp] theorem length_bytes (g : Gas) : g.bytes.length = 16 := length_bytesOfBits 16 g

theorem ofBytes_bytes (g : Gas) : ofBytes g.bytes = g := ofNat_decode_bytesOfBits 16 g

theorem bytes_ofBytes {bytes : Bytes} (h : bytes.length = 16) : (ofBytes bytes).bytes = bytes :=
  bytesOfBits_ofNat_decode h

/-- The half of a word that is read is the half that was written, in either order. -/
theorem high_join (h l : Gas) : high (join h l) = h := by
  unfold high join
  rw [BitVec.extractLsb'_append_eq_of_le (Nat.le_refl 128)]
  exact BitVec.extractLsb'_eq_self

theorem low_join (h l : Gas) : low (join h l) = l := by
  unfold low join
  rw [BitVec.extractLsb'_append_eq_of_add_le (Nat.le_refl 128)]
  exact BitVec.extractLsb'_eq_self

theorem join_high_low (w : Word) : join (high w) (low w) = w :=
  BitVec.extractLsb'_append_extractLsb'

/-- The high half stands in the first 16 bytes of the word, the low half in the others. -/
theorem bytes_word (w : Word) : w.bytes = (high w).bytes ++ (low w).bytes := by
  have hw := w.isLt
  have hhigh : (high w).toNat = w.toNat / 256 ^ 16 := by
    unfold high
    rw [BitVec.extractLsb'_toNat, Nat.shiftRight_eq_div_pow, Nat.mod_eq_of_lt]
    · rfl
    · exact Nat.div_lt_of_lt_mul hw
  have hlow : (low w).toNat = w.toNat % 256 ^ 16 := by
    unfold low
    rw [BitVec.extractLsb'_toNat, Nat.shiftRight_zero]
    rfl
  show BigEndian.encode 32 w.toNat
    = BigEndian.encode 16 (high w).toNat ++ BigEndian.encode 16 (low w).toNat
  rw [hhigh, hlow, BigEndian.encode_mod]
  exact BigEndian.encode_add 16 16 w.toNat

end Gas

namespace UserOperation

/-! ## Normal form -/

/-- Nothing hangs on an absent factory or an absent paymaster. -/
structure IsNormal (op : UserOperation) : Prop where
  factoryData_eq : op.factory = none → op.factoryData = []
  paymasterVerificationGasLimit_eq : op.paymaster = none → op.paymasterVerificationGasLimit = 0
  paymasterPostOpGasLimit_eq : op.paymaster = none → op.paymasterPostOpGasLimit = 0
  paymasterData_eq : op.paymaster = none → op.paymasterData = []

/-- Normal form field by field. -/
theorem normalize_eq (op : UserOperation) : op.normalize = { op with
    factoryData := if op.factory.isSome then op.factoryData else []
    paymasterVerificationGasLimit :=
      if op.paymaster.isSome then op.paymasterVerificationGasLimit else 0
    paymasterPostOpGasLimit := if op.paymaster.isSome then op.paymasterPostOpGasLimit else 0
    paymasterData := if op.paymaster.isSome then op.paymasterData else [] } := by
  obtain ⟨sender, nonce, factory, factoryData, callData, callGas, verificationGas, preGas,
    priorityFee, maxFee, paymaster, paymasterGas, postOpGas, paymasterData, signature⟩ := op
  cases factory <;> cases paymaster <;> rfl

theorem isNormal_normalize (op : UserOperation) : op.normalize.IsNormal := by
  rw [normalize_eq]
  constructor
  all_goals
    intro hnone
    simp only at hnone
    simp [hnone]

/-- A value that is at its default where an option is absent is not changed by dropping it
there. -/
theorem ite_isSome_eq_self {α β : Type} {option : Option α} {value default : β}
    (h : option = none → value = default) :
    (if option.isSome then value else default) = value := by
  cases option with
  | none =>
    rw [h rfl]
    exact ite_self _
  | some _ => rfl

/-- An operation in normal form has nothing that could be taken away. -/
theorem IsNormal.normalize_eq_self {op : UserOperation} (h : op.IsNormal) :
    op.normalize = op := by
  rw [normalize_eq, ite_isSome_eq_self h.factoryData_eq,
    ite_isSome_eq_self h.paymasterVerificationGasLimit_eq,
    ite_isSome_eq_self h.paymasterPostOpGasLimit_eq, ite_isSome_eq_self h.paymasterData_eq]

theorem normalize_eq_iff {op : UserOperation} : op.normalize = op ↔ op.IsNormal := by
  constructor
  · intro h
    rw [← h]
    exact op.isNormal_normalize
  · exact IsNormal.normalize_eq_self

/-! ## Unpacking what was packed -/

/-- The first 20 bytes of an init code are the factory, the others are its data. -/
theorem splitInitCode_append (factory : Address) (data : Bytes) :
    splitInitCode (factory.bytes ++ data) = .ok (some factory, data) := by
  have hlength : (factory.bytes ++ data).length = 20 + data.length := by simp
  have hnonempty : ¬(factory.bytes ++ data).isEmpty := by
    intro hempty
    rw [List.isEmpty_iff.mp hempty, List.length_nil] at hlength
    omega
  unfold splitInitCode addressLength
  rw [if_neg hnonempty, if_neg (by omega), List.take_left' factory.length_bytes,
    List.drop_left' factory.length_bytes, Address.ofBytes_bytes]

/-- The places of the fields of a paymaster. -/
theorem splitPaymasterAndData_append (paymaster : Address) (verificationLimit postOpLimit : Gas)
    (data : Bytes) :
    splitPaymasterAndData
        (paymaster.bytes ++ verificationLimit.bytes ++ postOpLimit.bytes ++ data)
      = .ok (some paymaster, verificationLimit, postOpLimit, data) := by
  generalize hfield : paymaster.bytes ++ verificationLimit.bytes ++ postOpLimit.bytes ++ data
    = field
  have hlength : field.length = 52 + data.length := by
    rw [← hfield]
    simp only [List.length_append, Address.length_bytes, Gas.length_bytes]
  -- the four cuts, each taken from what the one before left
  have hfirst : field
      = paymaster.bytes ++ (verificationLimit.bytes ++ (postOpLimit.bytes ++ data)) := by
    rw [← hfield, List.append_assoc, List.append_assoc]
  have htwenty : field.drop 20 = verificationLimit.bytes ++ (postOpLimit.bytes ++ data) := by
    rw [hfirst, List.drop_left' paymaster.length_bytes]
  have hthirtySix : field.drop 36 = postOpLimit.bytes ++ data := by
    rw [show 36 = 20 + 16 from rfl, ← List.drop_drop, htwenty,
      List.drop_left' (Gas.length_bytes _)]
  have hfiftyTwo : field.drop 52 = data := by
    rw [show 52 = 36 + 16 from rfl, ← List.drop_drop, hthirtySix,
      List.drop_left' (Gas.length_bytes _)]
  have hnonempty : ¬field.isEmpty := by
    intro hempty
    rw [List.isEmpty_iff.mp hempty, List.length_nil] at hlength
    omega
  unfold splitPaymasterAndData paymasterHeadLength
  rw [if_neg hnonempty, if_neg (by omega), htwenty, hthirtySix, hfiftyTwo, hfirst,
    List.take_left' paymaster.length_bytes, List.take_left' (Gas.length_bytes _),
    List.take_left' (Gas.length_bytes _), Address.ofBytes_bytes, Gas.ofBytes_bytes,
    Gas.ofBytes_bytes]

/-- Nothing of a factory that is there is lost in an init code. -/
theorem splitInitCode_initCode (op : UserOperation) :
    splitInitCode op.initCode
      = .ok (op.factory, if op.factory.isSome then op.factoryData else []) := by
  unfold initCode
  cases op.factory with
  | none => rfl
  | some factory => exact splitInitCode_append factory op.factoryData

/-- Nor is anything of a paymaster that is there. -/
theorem splitPaymasterAndData_paymasterAndData (op : UserOperation) :
    splitPaymasterAndData op.paymasterAndData
      = .ok (op.paymaster, if op.paymaster.isSome then op.paymasterVerificationGasLimit else 0,
          if op.paymaster.isSome then op.paymasterPostOpGasLimit else 0,
          if op.paymaster.isSome then op.paymasterData else []) := by
  unfold paymasterAndData
  cases op.paymaster with
  | none => rfl
  | some paymaster => exact splitPaymasterAndData_append paymaster _ _ _

/-- **Unpacking what was packed** gives the operation in normal form. -/
theorem unpack_pack (op : UserOperation) : unpack op.pack = .ok op.normalize := by
  unfold unpack pack
  rw [splitInitCode_initCode, splitPaymasterAndData_paymasterAndData, normalize_eq]
  simp only [bind, Except.bind, pure, Except.pure, Gas.high_join, Gas.low_join]

/-! ## Building -/

/-- The factory and the data that a step names, if it names one. -/
def BuildStep.factory? : BuildStep → Option (Address × Bytes)
  | .factory address data => some (address, data)
  | .paymaster _ _ _ _ => none

/-- The paymaster, its gas limits and the data that a step names, if it names one. -/
def BuildStep.paymaster? : BuildStep → Option (Address × Gas × Gas × Bytes)
  | .factory _ _ => none
  | .paymaster address verificationLimit postOpLimit data =>
    some (address, verificationLimit, postOpLimit, data)

/-- The last factory that the steps name. -/
def lastFactory (steps : List BuildStep) : Option (Address × Bytes) :=
  (steps.filterMap BuildStep.factory?).getLast?

/-- The last paymaster that the steps name. -/
def lastPaymaster (steps : List BuildStep) : Option (Address × Gas × Gas × Bytes) :=
  (steps.filterMap BuildStep.paymaster?).getLast?

/-- The operation of the required fields, a factory and a paymaster, where either may be
absent. -/
def assemble (r : RequiredFields) (factory : Option (Address × Bytes))
    (paymaster : Option (Address × Gas × Gas × Bytes)) : UserOperation :=
  { ofRequired r with
    factory := factory.map (·.1)
    factoryData := (factory.map (·.2)).getD []
    paymaster := paymaster.map (·.1)
    paymasterVerificationGasLimit := (paymaster.map (·.2.1)).getD 0
    paymasterPostOpGasLimit := (paymaster.map (·.2.2.1)).getD 0
    paymasterData := (paymaster.map (·.2.2.2)).getD [] }

/-- **Of the steps of either kind, the last one counts.** -/
theorem build_eq (r : RequiredFields) (steps : List BuildStep) :
    build r steps = assemble r (lastFactory steps) (lastPaymaster steps) := by
  -- from the back: the last step replaces what the steps before it set
  induction steps using List.reverseRecOn with
  | nil => rfl
  | append_singleton steps last ih =>
    have hbuild : build r (steps ++ [last]) = (build r steps).apply last := by
      simp [build]
    rw [hbuild, ih]
    cases last with
    | factory factory data =>
      simp [lastFactory, lastPaymaster, BuildStep.factory?, BuildStep.paymaster?, assemble, apply]
    | paymaster paymaster verificationLimit postOpLimit data =>
      simp [lastFactory, lastPaymaster, BuildStep.factory?, BuildStep.paymaster?, assemble, apply]

theorem isNormal_assemble (r : RequiredFields) (factory : Option (Address × Bytes))
    (paymaster : Option (Address × Gas × Gas × Bytes)) :
    (assemble r factory paymaster).IsNormal := by
  constructor
  all_goals
    intro hnone
    rw [Option.map_eq_none_iff.mp hnone]
    rfl

/-- What was built has nothing that packing would forget. -/
theorem isNormal_build (r : RequiredFields) (steps : List BuildStep) :
    (build r steps).IsNormal := by
  rw [build_eq]
  exact isNormal_assemble _ _ _

/-- **Packing loses nothing that reaches the chain.** Unpacking succeeds on everything that was
packed and gives it in normal form, so it gives back exactly the operations in normal form. All
that are built are among them, and of the steps of a build only the last factory and the last
paymaster matter. -/
theorem packing_lossless (op : UserOperation) (r : RequiredFields) (steps : List BuildStep) :
    unpack op.pack = .ok op.normalize
      ∧ (unpack op.pack = .ok op ↔ op.IsNormal)
      ∧ (build r steps).IsNormal
      ∧ unpack (build r steps).pack = .ok (build r steps)
      ∧ build r steps = assemble r (lastFactory steps) (lastPaymaster steps) := by
  refine ⟨unpack_pack op, ?_, isNormal_build r steps, ?_, build_eq r steps⟩
  · rw [unpack_pack, Except.ok.injEq]
    exact normalize_eq_iff
  · rw [unpack_pack, (isNormal_build r steps).normalize_eq_self]

end UserOperation

end SmartAccount
