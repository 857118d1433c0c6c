import SmartAccount.Signer.Curve
import SmartAccount.Word
/-!
# Private keys

A private key is a number between one and the order of the curve, and its address is taken from
the hash of its public key.
-/

namespace SmartAccount

/-- A private key. -/
structure PrivateKey where
  scalar : Nat
  positive : 0 < scalar
  below : scalar < Curve.order

namespace PrivateKey

/-- The key with a given number, if the number is in range. -/
def ofNat? (n : Nat) : Option PrivateKey :=
  if h : 0 < n ∧ n < Curve.order then some ⟨n, h.1, h.2⟩ else none

/-- A key from its 32 bytes in hex, with or without the marker. -/
def parse? (text : String) : Option PrivateKey :=
  (Hex.parseFixed? 32 text).bind fun bytes => ofNat? (BigEndian.decode bytes)

/-- What is said of a text that is no key. -/
def malformed : String := "signer.private_key should be a hex encoded private key"

/-- The 64 bytes of the public key: its two coordinates. -/
def publicBytes (key : PrivateKey) : Bytes :=
  match Curve.multiple key.scalar Curve.generator with
  | .neutral => []
  | .affine x y => BigEndian.encode 32 x ++ BigEndian.encode 32 y

/-- The address of the key: the low 20 bytes of the hash of the public key. -/
def address (key : PrivateKey) : Address :=
  Address.ofBytes ((Keccak.hash key.publicBytes).drop 12)

end PrivateKey

end SmartAccount
