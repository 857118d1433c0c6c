/-!
# The curve of the keys

The points of the curve `y² = x³ + 7` over a prime field, with the group law in affine
coordinates. A public key is a multiple of the generator.
-/

namespace SmartAccount.Curve

/-- The prime of the field. -/
def fieldPrime : Nat := 0xfffffffffffffffffffffffffffffffffffffffffffffffffffffffefffffc2f

/-- The order of the generator, a prime. -/
def order : Nat := 0xfffffffffffffffffffffffffffffffebaaedce6af48a03bbfd25e8cd0364141

/-- A point of the curve, or the neutral element. -/
inductive Point where
  | neutral
  | affine (x y : Nat)
  deriving DecidableEq

/-- The generator. -/
def generator : Point := .affine
  0x79be667ef9dcbbac55a06295ce870b07029bfcdb2dce28d959f2815b16f81798
  0x483ada7726a3c4655da4fbfc0e1108a8fd17b448a68554199c47d08ffb10d4b8

/-- `base ^ exponent` modulo `modulus`, over the bits of the exponent. -/
def power (modulus base : Nat) (exponent : Nat) : Nat :=
  if exponent = 0 then 1 % modulus
  else
    let half := power modulus (base * base % modulus) (exponent / 2)
    if exponent % 2 = 1 then base * half % modulus else half
termination_by exponent

/-- The inverse modulo a prime, by Fermat's little theorem. -/
def inverse (prime a : Nat) : Nat := power prime a (prime - 2)

/-- The difference of two elements of the field. -/
def difference (a b : Nat) : Nat := (a + fieldPrime - b % fieldPrime) % fieldPrime

/-- The third point on the line of slope `slope` through `(x₁, y₁)` and a point of abscissa `x₂`,
reflected. -/
def chord (slope x₁ y₁ x₂ : Nat) : Point :=
  let x := difference (difference (slope * slope) x₁) x₂
  .affine x (difference (slope * difference x₁ x) y₁)

/-- Twice a point. -/
def double : Point → Point
  | .neutral => .neutral
  | .affine x y =>
    if y = 0 then .neutral
    else
      let slope := 3 * (x * x) * inverse fieldPrime (2 * y) % fieldPrime
      chord slope x y x

/-- The sum of two points. -/
def add : Point → Point → Point
  | .neutral, q => q
  | p, .neutral => p
  | .affine x₁ y₁, .affine x₂ y₂ =>
    if x₁ = x₂ then
      if y₁ = y₂ then double (.affine x₁ y₁) else .neutral
    else
      let slope := difference y₂ y₁ * inverse fieldPrime (difference x₂ x₁) % fieldPrime
      chord slope x₁ y₁ x₂

/-- A multiple of a point, over the bits of the factor. -/
def multiple (factor : Nat) (p : Point) : Point :=
  if factor = 0 then .neutral
  else
    let half := multiple (factor / 2) (double p)
    if factor % 2 = 1 then add p half else half
termination_by factor

end SmartAccount.Curve
