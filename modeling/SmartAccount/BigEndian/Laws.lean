import Mathlib.Tactic.Ring
import SmartAccount.BigEndian
/-!
# Big-endian numbers read back

On byte strings of one length, writing and reading are inverse: `decode_encode` says that
writing keeps a number modulo what fits, and `encode_decode` that reading loses nothing.
-/

namespace SmartAccount.BigEndian

/-- Dropping whole bytes is dividing. -/
theorem shiftRight_eq_div (n width : Nat) : n >>> (8 * width) = n / 256 ^ width := by
  rw [Nat.shiftRight_eq_div_pow, Nat.pow_mul]

/-- Folding from a head start of `n` adds `n` in front of what is read. -/
theorem foldl_eq_decode (bytes : Bytes) (n : Nat) :
    bytes.foldl (fun n b => 256 * n + b.toNat) n = n * 256 ^ bytes.length + decode bytes := by
  induction bytes generalizing n with
  | nil => simp
  | cons b rest ih =>
    simp only [decode, List.foldl_cons, List.length_cons, Nat.pow_succ]
    rw [ih (256 * n + b.toNat), ih (256 * 0 + b.toNat), Nat.mul_zero, Nat.zero_add, Nat.add_mul,
      Nat.add_assoc]
    congr 1
    rw [Nat.mul_comm 256 n, Nat.mul_assoc, Nat.mul_comm 256 (256 ^ rest.length)]

theorem decode_cons (b : UInt8) (rest : Bytes) :
    decode (b :: rest) = b.toNat * 256 ^ rest.length + decode rest := by
  have := foldl_eq_decode rest (256 * 0 + b.toNat)
  simpa [decode] using this

theorem decode_lt (bytes : Bytes) : decode bytes < 256 ^ bytes.length := by
  induction bytes with
  | nil => simp
  | cons b rest ih =>
    rw [decode_cons, List.length_cons, Nat.pow_succ]
    have hb : b.toNat + 1 ≤ 256 := b.toNat_lt
    have : (b.toNat + 1) * 256 ^ rest.length ≤ 256 * 256 ^ rest.length :=
      Nat.mul_le_mul_right _ hb
    rw [Nat.add_mul, Nat.one_mul] at this
    rw [Nat.mul_comm (256 ^ rest.length) 256]
    omega

/-- Writing keeps the number modulo what fits into the width. -/
theorem decode_encode (width n : Nat) : decode (encode width n) = n % 256 ^ width := by
  induction width with
  | zero => simp [encode, Nat.mod_one]
  | succ width ih =>
    rw [encode, decode_cons, length_encode, ih, Nat.pow_succ, Nat.mod_mul, shiftRight_eq_div]
    have : (UInt8.ofNat (n / 256 ^ width)).toNat = n / 256 ^ width % 256 := by simp
    rw [this, Nat.mul_comm (n / 256 ^ width % 256), Nat.add_comm]

/-- Reading loses nothing: writing the number back into as many bytes gives the bytes. -/
theorem encode_decode (bytes : Bytes) : encode bytes.length (decode bytes) = bytes := by
  suffices h : ∀ (bytes : Bytes) (n : Nat),
      encode bytes.length (n * 256 ^ bytes.length + decode bytes) = bytes by
    simpa using h bytes 0
  intro bytes
  induction bytes with
  | nil => intro n; rfl
  | cons b rest ih =>
    intro n
    have hpos : 0 < 256 ^ rest.length := Nat.pow_pos (by decide)
    have hlt := decode_lt rest
    have hsum : n * 256 ^ (b :: rest).length + decode (b :: rest)
        = (n * 256 + b.toNat) * 256 ^ rest.length + decode rest := by
      rw [decode_cons, List.length_cons, Nat.pow_succ, Nat.add_mul, Nat.mul_assoc,
        Nat.mul_comm 256 (256 ^ rest.length), Nat.add_assoc]
    have hdiv : (n * 256 ^ (b :: rest).length + decode (b :: rest)) / 256 ^ rest.length
        = n * 256 + b.toNat := by
      rw [hsum, Nat.add_comm, Nat.add_mul_div_right _ _ hpos, Nat.div_eq_of_lt hlt, Nat.zero_add]
    simp only [List.length_cons, encode, List.cons.injEq, shiftRight_eq_div]
    refine ⟨?_, ?_⟩
    · rw [List.length_cons] at hdiv
      rw [hdiv]
      apply UInt8.toNat_inj.1
      simp
    · rw [List.length_cons] at hsum
      rw [hsum]
      exact ih _

end SmartAccount.BigEndian
