import SmartAccount.BigEndian.Laws
import SmartAccount.Word
/-!
# The bytes of words and addresses

A bit string whose width is a whole number of bytes is the same thing as its bytes, most significant
first: reading what was written gives the bit string back (`ofNat_decode_bytesOfBits`), and
writing what was read gives the bytes back, as long as there are as many as fit
(`bytesOfBits_ofNat_decode`). Words and addresses are the two cases that reach the chain.

`encode_add` is the fact behind fields that share a word: the bytes of a number in `a + b` places
are those of its high part in `a` places and those of its low part in `b` places.
-/

namespace SmartAccount

namespace BigEndian

/-- The high places of a number and its low places. -/
theorem encode_add (a b n : Nat) : encode (a + b) n = encode a (n / 256 ^ b) ++ encode b n := by
  induction a with
  | zero => simp [encode]
  | succ a ih =>
    rw [Nat.add_right_comm, encode, encode, ih, List.cons_append]
    congr 2
    rw [shiftRight_eq_div, shiftRight_eq_div, Nat.div_div_eq_div_mul, ← Nat.pow_add, Nat.add_comm]

/-- Only the places that are written matter. -/
theorem encode_mod (width n : Nat) : encode width (n % 256 ^ width) = encode width n := by
  have h := encode_decode (encode width n)
  rw [length_encode, decode_encode] at h
  exact h

end BigEndian

/-- A byte has 256 values. -/
theorem two_pow_eight_mul (size : Nat) : 2 ^ (8 * size) = 256 ^ size := by
  rw [Nat.pow_mul]

@[simp] theorem length_bytesOfBits (size : Nat) (value : BitVec (8 * size)) :
    (bytesOfBits size value).length = size :=
  BigEndian.length_encode size value.toNat

/-- Reading the bytes of a bit string gives the bit string. -/
theorem ofNat_decode_bytesOfBits (size : Nat) (value : BitVec (8 * size)) :
    BitVec.ofNat (8 * size) (BigEndian.decode (bytesOfBits size value)) = value := by
  have hlt := value.isLt
  rw [two_pow_eight_mul] at hlt
  unfold bytesOfBits
  rw [BigEndian.decode_encode, Nat.mod_eq_of_lt hlt, BitVec.ofNat_toNat, BitVec.setWidth_eq]

/-- Writing what some bytes write gives the bytes. -/
theorem bytesOfBits_ofNat_decode {size : Nat} {bytes : Bytes} (h : bytes.length = size) :
    bytesOfBits size (BitVec.ofNat (8 * size) (BigEndian.decode bytes)) = bytes := by
  have hlt := BigEndian.decode_lt bytes
  rw [h] at hlt
  unfold bytesOfBits
  rw [BitVec.toNat_ofNat, two_pow_eight_mul, Nat.mod_eq_of_lt hlt, ← h]
  exact BigEndian.encode_decode bytes

theorem bytesOfBits_inj (size : Nat) {a b : BitVec (8 * size)}
    (h : bytesOfBits size a = bytesOfBits size b) : a = b := by
  rw [← ofNat_decode_bytesOfBits size a, h, ofNat_decode_bytesOfBits]

namespace Word

@[simp] theorem length_bytes (w : Word) : w.bytes.length = 32 := length_bytesOfBits 32 w

theorem ofBytes_bytes (w : Word) : ofBytes w.bytes = w := ofNat_decode_bytesOfBits 32 w

theorem bytes_ofBytes {bytes : Bytes} (h : bytes.length = 32) : (ofBytes bytes).bytes = bytes :=
  bytesOfBits_ofNat_decode h

theorem bytes_inj {a b : Word} (h : a.bytes = b.bytes) : a = b := bytesOfBits_inj 32 h

/-- Padding a shorter bit string to a word keeps different ones apart. -/
theorem setWidth_inj {width : Nat} (hwidth : width ≤ 256) {x y : BitVec width}
    (h : x.setWidth 256 = y.setWidth 256) : x = y := by
  have hback (z : BitVec width) : (z.setWidth 256).setWidth width = z := by
    rw [BitVec.setWidth_setWidth_of_le z hwidth, BitVec.setWidth_eq]
  rw [← hback x, h, hback y]

end Word

namespace Address

@[simp] theorem length_bytes (a : Address) : a.bytes.length = 20 := length_bytesOfBits 20 a

theorem ofBytes_bytes (a : Address) : ofBytes a.bytes = a := ofNat_decode_bytesOfBits 20 a

theorem bytes_ofBytes {bytes : Bytes} (h : bytes.length = 20) : (ofBytes bytes).bytes = bytes :=
  bytesOfBits_ofNat_decode h

end Address

end SmartAccount
