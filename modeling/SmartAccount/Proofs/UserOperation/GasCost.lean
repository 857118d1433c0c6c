import Mathlib.Algebra.Group.Nat.Defs
import SmartAccount.UserOperation.Basic
/-!
# When the cost of an operation can be trusted

The most that an operation can cost is computed on words, four sums and a product, and each of them
wraps without a sign of it. `totalGas` and `cost` are the same amounts as plain numbers.

Wrapping on the way does not matter in itself: what comes out is the cost modulo `2 ^ 256`
(`toNat_maxGasCost`), also where the gas alone does not fit into a word. So the cost that is
computed is the true one exactly if the true one fits into a word (`toNat_maxGasCost_eq_iff`);
otherwise it is too low. A fee has 128 bits, so with gas up to `2 ^ 128` it always fits
(`cost_lt`), and there more gas or a higher fee never costs less.
-/

namespace SmartAccount

/-- A word has room for an amount. -/
theorem Gas.toNat_setWidth (g : Gas) : (g.setWidth 256).toNat = g.toNat :=
  BitVec.toNat_setWidth_of_le (by omega)

namespace UserOperation

/-- The gas that an operation can take in all. -/
def totalGas (op : UserOperation) : Nat :=
  op.preVerificationGas.toNat + op.callGasLimit.toNat + op.verificationGasLimit.toNat
    + op.paymasterVerificationGasLimit.toNat + op.paymasterPostOpGasLimit.toNat

/-- The wei that an operation can cost. -/
def cost (op : UserOperation) : Nat := op.maxFeePerGas.toNat * op.totalGas

/-- The fee and each amount of gas of an operation are at most those of another one. -/
structure IsWithin (op other : UserOperation) : Prop where
  maxFeePerGas_le : op.maxFeePerGas ≤ other.maxFeePerGas
  preVerificationGas_le : op.preVerificationGas ≤ other.preVerificationGas
  callGasLimit_le : op.callGasLimit ≤ other.callGasLimit
  verificationGasLimit_le : op.verificationGasLimit ≤ other.verificationGasLimit
  paymasterVerificationGasLimit_le :
    op.paymasterVerificationGasLimit ≤ other.paymasterVerificationGasLimit
  paymasterPostOpGasLimit_le : op.paymasterPostOpGasLimit ≤ other.paymasterPostOpGasLimit

theorem IsWithin.totalGas_le {op other : UserOperation} (h : op.IsWithin other) :
    op.totalGas ≤ other.totalGas := by
  have hpre := BitVec.le_def.mp h.preVerificationGas_le
  have hcall := BitVec.le_def.mp h.callGasLimit_le
  have hverification := BitVec.le_def.mp h.verificationGasLimit_le
  have hpaymaster := BitVec.le_def.mp h.paymasterVerificationGasLimit_le
  have hpostOp := BitVec.le_def.mp h.paymasterPostOpGasLimit_le
  unfold totalGas
  omega

theorem IsWithin.cost_le {op other : UserOperation} (h : op.IsWithin other) :
    op.cost ≤ other.cost :=
  Nat.mul_le_mul (BitVec.le_def.mp h.maxFeePerGas_le) h.totalGas_le

/-- With gas of at most `2 ^ 128`, no fee makes the cost too large for a word. -/
theorem cost_lt {op : UserOperation} (h : op.totalGas ≤ 2 ^ 128) : op.cost < 2 ^ 256 := by
  have hfee : op.maxFeePerGas.toNat < 2 ^ 128 := op.maxFeePerGas.isLt
  calc op.cost
      ≤ op.maxFeePerGas.toNat * 2 ^ 128 := Nat.mul_le_mul_left _ h
    _ < 2 ^ 128 * 2 ^ 128 := Nat.mul_lt_mul_of_pos_right hfee (by omega)
    _ = 2 ^ 256 := rfl

/-- The sum wraps as a whole, wherever on the way it wraps first. -/
theorem toNat_gasSum (op : UserOperation) :
    (op.preVerificationGas + op.callGasLimit.setWidth 256 + op.verificationGasLimit.setWidth 256
      + op.paymasterVerificationGasLimit.setWidth 256
      + op.paymasterPostOpGasLimit.setWidth 256).toNat = op.totalGas % 2 ^ 256 := by
  unfold totalGas
  simp only [BitVec.toNat_add, Gas.toNat_setWidth, Nat.mod_add_mod]

/-- **The cost that is computed** is the cost modulo `2 ^ 256`. -/
theorem toNat_maxGasCost (op : UserOperation) : op.maxGasCost.toNat = op.cost % 2 ^ 256 := by
  unfold maxGasCost cost
  rw [BitVec.toNat_mul, toNat_gasSum, Gas.toNat_setWidth, Nat.mul_mod_mod]

theorem toNat_maxGasCost_eq_iff {op : UserOperation} :
    op.maxGasCost.toNat = op.cost ↔ op.cost < 2 ^ 256 := by
  rw [toNat_maxGasCost]
  constructor
  · intro h
    rw [← h]
    exact Nat.mod_lt _ (by omega)
  · exact Nat.mod_eq_of_lt

/-- **When the cost of an operation can be trusted.** What is computed is the cost modulo
`2 ^ 256`, so it is the cost exactly if the cost fits into a word. With gas up to `2 ^ 128` it is,
whatever the fee; and an operation that is within one with so little gas, in its fee and in each
amount of gas, is not said to cost more than that one. -/
theorem gas_cost_trusted (op other : UserOperation) :
    op.maxGasCost.toNat = op.cost % 2 ^ 256
      ∧ (op.maxGasCost.toNat = op.cost ↔ op.cost < 2 ^ 256)
      ∧ (op.totalGas ≤ 2 ^ 128 → op.maxGasCost.toNat = op.cost)
      ∧ (other.totalGas ≤ 2 ^ 128 → op.IsWithin other → op.maxGasCost ≤ other.maxGasCost) := by
  refine ⟨toNat_maxGasCost op, toNat_maxGasCost_eq_iff, ?_, ?_⟩
  · intro hgas
    exact toNat_maxGasCost_eq_iff.mpr (cost_lt hgas)
  · intro hgas hwithin
    have hgas' : op.totalGas ≤ 2 ^ 128 := Nat.le_trans hwithin.totalGas_le hgas
    rw [BitVec.le_def, toNat_maxGasCost_eq_iff.mpr (cost_lt hgas'),
      toNat_maxGasCost_eq_iff.mpr (cost_lt hgas)]
    exact hwithin.cost_le

/-- An operation that only has a fee, gas in front of its two phases and gas to execute. -/
def ofGas (maxFeePerGas : Gas) (preVerificationGas : Word) (callGasLimit : Gas) : UserOperation :=
  ofRequired {
    sender := 0
    nonce := 0
    callData := []
    callGasLimit := callGasLimit
    verificationGasLimit := 0
    preVerificationGas := preVerificationGas
    maxPriorityFeePerGas := 0
    maxFeePerGas := maxFeePerGas
    signature := [] }

/-- One unit of gas more than a word holds, at a fee of one, is said to cost nothing. -/
example : (ofGas 1 (BitVec.allOnes 256) 1).maxGasCost = 0 := by decide +kernel

/-- An operation with gas of `2 ^ 128` at the highest fee. -/
def dearest : UserOperation := ofGas (BitVec.allOnes 128) (.ofNat 256 (2 ^ 128 - 1)) 1

/-- Gas of `2 ^ 128` at the highest fee, and at a fee of seven. -/
theorem gas_cost_trusted_highestFee :
    dearest.totalGas ≤ 2 ^ 128
      ∧ IsWithin { dearest with maxFeePerGas := 7 } dearest
      ∧ dearest.maxGasCost.toNat = dearest.cost
      ∧ maxGasCost { dearest with maxFeePerGas := 7 } ≤ dearest.maxGasCost := by
  have hgas : dearest.totalGas ≤ 2 ^ 128 := by decide +kernel
  have hwithin : IsWithin { dearest with maxFeePerGas := 7 } dearest := by
    constructor
    case maxFeePerGas_le => decide
    all_goals exact BitVec.le_refl _
  obtain ⟨-, -, hexact, -⟩ := gas_cost_trusted dearest dearest
  obtain ⟨-, -, -, hmonotone⟩ := gas_cost_trusted { dearest with maxFeePerGas := 7 } dearest
  exact ⟨hgas, hwithin, hexact hgas, hmonotone hgas hwithin⟩

end UserOperation

end SmartAccount
