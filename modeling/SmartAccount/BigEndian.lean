/-!
# Byte strings and big-endian numbers

Everything that reaches the chain is a string of bytes, and every number in it is written
with its most significant byte first. `encode` writes a number into a given count of bytes
and `decode` reads a byte string of any length back.
-/

namespace SmartAccount

/-- A string of bytes of any length. -/
abbrev Bytes := List UInt8

namespace BigEndian

/-- The low `width` bytes of a number, most significant first. -/
def encode : (width : Nat) → Nat → Bytes
  | 0, _ => []
  | width + 1, n => UInt8.ofNat (n >>> (8 * width)) :: encode width n

/-- The number that a byte string writes, most significant byte first. -/
def decode (bytes : Bytes) : Nat :=
  bytes.foldl (fun n b => 256 * n + b.toNat) 0

@[simp] theorem length_encode (width n : Nat) : (encode width n).length = width := by
  induction width with
  | zero => rfl
  | succ width ih => simp [encode, ih]

@[simp] theorem decode_nil : decode [] = 0 := rfl

end BigEndian

end SmartAccount
