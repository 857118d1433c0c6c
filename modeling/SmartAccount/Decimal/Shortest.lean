/-!
# The shortest decimal of a float

A finite float stands for all the reals that round to it. Of the decimals among them, the one
that is written for the float has as few digits as possible, and of those with that many digits
it is the nearest to the float. An exact tie goes to the even last digit.

Every float is a whole multiple of some negative power of ten, and so are the ends of its
interval. So the search runs over natural numbers and nothing in it is rounded.
-/

namespace SmartAccount

/-- A decimal, `digits * 10 ^ exponent`. -/
structure Decimal where
  digits : Nat
  exponent : Int
  deriving DecidableEq

namespace Decimal

/-- The reals that round to a float, in units of `10 ^ -places`: those between `low` and `high`,
and these two as well if the interval is `closed`. -/
structure Interval where
  value : Nat
  low : Nat
  high : Nat
  closed : Bool
  places : Nat

namespace Interval

/-- The interval of `mantissa * 2 ^ power`. Its ends lie halfway to the neighbours; the one below
is only half as far away where `narrowBelow` says so. -/
def ofBinary (mantissa : Nat) (power : Int) (narrowBelow : Bool) : Interval :=
  let quarter := power - 2
  let places := (-quarter).toNat
  let unit := if quarter < 0 then Nat.pow 5 places else 1 <<< quarter.toNat
  { value := 4 * mantissa * unit
    low := (if narrowBelow then 4 * mantissa - 1 else 4 * mantissa - 2) * unit
    high := (4 * mantissa + 2) * unit
    closed := mantissa % 2 = 0
    places := places }

/-- The interval of a finite float, whatever its sign: 52 bits of the mantissa, and 11 bits of
the exponent before them. -/
def ofFloat (x : Float) : Interval :=
  let bits := x.toBits.toNat
  let fraction := bits % 4503599627370496
  let exponent := bits / 4503599627370496 % 2048
  if exponent = 0 then ofBinary fraction (-1074) false
  else ofBinary (4503599627370496 + fraction) (exponent - 1075) (fraction = 0 && 1 < exponent)

def contains (i : Interval) (n : Nat) : Bool :=
  i.low < n && n < i.high || i.closed && (n = i.low || n = i.high)

/-- The decimal that is chosen on the multiples of `10 ^ grid`, or on a finer grid if none of
them lies in the interval. -/
def select (i : Interval) : (grid : Nat) → Decimal
  | 0 => ⟨i.value, -i.places⟩
  | grid + 1 =>
    let step := Nat.pow 10 (grid + 1)
    let below := i.value / step
    let above := below + 1
    let isBelowNearer :=
      2 * i.value < (below + above) * step || 2 * i.value = (below + above) * step && below % 2 = 0
    if i.contains (below * step) && (isBelowNearer || !i.contains (above * step)) then
      ⟨below, (grid + 1 : Nat) - i.places⟩
    else if i.contains (above * step) then ⟨above, (grid + 1 : Nat) - i.places⟩
    else i.select grid

end Interval

/-- The shortest decimal of a finite float, whatever its sign. The search starts on a grid that
is too coarse to hold the float. -/
def shortest (x : Float) : Decimal :=
  let i := Interval.ofFloat x
  i.select (Nat.toDigits 10 i.value).length

end Decimal

end SmartAccount
