import SmartAccount.Digest.Sha256
import SmartAccount.Signer.Key
/-!
# Signatures

A signature of a hash is made with a nonce that is drawn from the key and the hash, so the same
hash always gets the same signature. Of the two values that would do, the smaller one is given,
and a bit says which of two points the nonce belongs to.
-/

namespace SmartAccount

/-- A signature. -/
structure Signature where
  r : Nat
  s : Nat
  /-- Whether the ordinate of the nonce's point is odd. -/
  isOdd : Bool
  deriving DecidableEq

namespace Signature

/-- The state of the source of nonces: a key and a value, 32 bytes each. -/
structure NonceSource where
  key : Bytes
  value : Bytes

namespace NonceSource

/-- Mixes something into the source. -/
def mix (source : NonceSource) (extra : Bytes) : NonceSource :=
  let key := Sha256.keyed source.key (source.value ++ extra)
  ⟨key, Sha256.keyed key source.value⟩

/-- The source for a key and a hash. -/
def start (key : PrivateKey) (hash : Hash) : NonceSource :=
  let reduced := hash.toNat % Curve.order
  let seed := BigEndian.encode 32 key.scalar ++ BigEndian.encode 32 reduced
  let source : NonceSource := ⟨List.replicate 32 0, List.replicate 32 1⟩
  (source.mix (0 :: seed)).mix (1 :: seed)

/-- The next value of the source. -/
def next (source : NonceSource) : NonceSource :=
  { source with value := Sha256.keyed source.key source.value }

end NonceSource

/-- The signature with a nonce, if the nonce will do. -/
def withNonce? (key : PrivateKey) (hash : Hash) (nonce : Nat) : Option Signature :=
  if nonce = 0 || Curve.order ≤ nonce then none
  else
    match Curve.multiple nonce Curve.generator with
    | .neutral => none
    | .affine x y =>
      let r := x % Curve.order
      let s := Curve.inverse Curve.order nonce * (hash.toNat + r * key.scalar) % Curve.order
      if r = 0 || s = 0 then none
      else if Curve.order / 2 < s then some ⟨r, Curve.order - s, y % 2 = 0⟩
      else some ⟨r, s, y % 2 = 1⟩

/-- The signature with the first nonce of the source that will do, of `tries` at most. -/
def search? (key : PrivateKey) (hash : Hash) : (tries : Nat) → NonceSource → Option Signature
  | 0, _ => none
  | tries + 1, source =>
    let source := source.next
    match withNonce? key hash (BigEndian.decode source.value) with
    | some signature => some signature
    | none => search? key hash tries (source.mix [0])

end Signature

/-- The signature of a hash. All but about one of `2 ^ 128` nonces will do, so a hundred are
enough. -/
def PrivateKey.sign? (key : PrivateKey) (hash : Hash) : Option Signature :=
  Signature.search? key hash 100 (.start key hash)

end SmartAccount
