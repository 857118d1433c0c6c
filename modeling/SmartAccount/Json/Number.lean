import SmartAccount.Decimal.Shortest
import SmartAccount.Json.Basic
/-!
# What a number stands for

The literal of a number stands for an integer of 64 bits if it is written as one and fits, and
for a 64-bit float otherwise. Only the digits that fit 64 bits count towards a float; they are
scaled by the power of ten in one float operation, so the result can be one step away from the
float nearest to the literal. A literal beyond all floats stands for nothing.

A value in `canonical` form has each number in the one form that is written for it.
-/

namespace SmartAccount.Json

/-- What a literal stands for. -/
inductive Number where
  | natural (n : Nat)
  /-- The negative of a number that is not zero. -/
  | negative (n : Nat)
  | float (x : Float)

/-- The parts of a literal. -/
structure NumberParts where
  isNegative : Bool
  /-- The digits before the point. -/
  whole : List Char
  /-- The digits after the point, empty without a point. -/
  fraction : List Char
  exponent : Int
  /-- Whether there is neither a point nor a power of ten. -/
  isInteger : Bool

namespace NumberParts

/-- The number that a list of digits writes. -/
def value (digits : List Char) : Nat := digits.foldl (fun n c => 10 * n + (c.toNat - 48)) 0

/-- The power of ten that a text behind the mark of the exponent writes. -/
def powerOf : List Char → Int
  | '-' :: digits => -(value digits : Int)
  | '+' :: digits => value digits
  | digits => value digits

/-- The parts of a well-formed literal. -/
def ofLiteral (literal : String) : NumberParts :=
  let text := literal.toList
  let isNegative := text.head? = some '-'
  let unsigned := if isNegative then text.drop 1 else text
  let isMark (c : Char) : Bool := c = 'e' || c = 'E'
  let mantissa := unsigned.takeWhile (!isMark ·)
  let power := unsigned.dropWhile (!isMark ·)
  let point := mantissa.dropWhile (· ≠ '.')
  { isNegative := isNegative
    whole := mantissa.takeWhile (· ≠ '.')
    fraction := point.drop 1
    exponent := powerOf (power.drop 1)
    isInteger := point.isEmpty && power.isEmpty }

end NumberParts

/-- Digits of a number that are read one by one, `significand * 10 ^ power`, as many as fit 64
bits. -/
structure Significand where
  significand : Nat := 0
  power : Int := 0
  /-- Whether a digit has been left out. -/
  isFull : Bool := false

namespace Significand

/-- The significand with one more digit, if it fits. -/
def append? (s : Significand) (digit : Char) : Option Nat :=
  let more := 10 * s.significand + (digit.toNat - 48)
  if s.isFull || 18446744073709551616 ≤ more then none else some more

/-- Reads a digit before the point. One that is left out still moves the point. -/
def readWhole (s : Significand) (digit : Char) : Significand :=
  match s.append? digit with
  | some more => { s with significand := more }
  | none => { s with power := s.power + 1, isFull := true }

/-- Reads a digit after the point. -/
def readFraction (s : Significand) (digit : Char) : Significand :=
  match s.append? digit with
  | some more => { s with significand := more, power := s.power - 1 }
  | none => { s with isFull := true }

/-- The digits before the point. -/
def ofWhole (digits : List Char) : Significand := digits.foldl readWhole {}

/-- The digits behind the point added; the first of them may fit again. -/
def addFraction (s : Significand) (digits : List Char) : Significand :=
  digits.foldl readFraction { s with isFull := false }

/-- The largest power of ten that is a float. -/
def maxPower : Nat := 308

/-- A float times a power of ten, divided stepwise where the power is very small; none if the
product is beyond all floats. -/
def scale? (x : Float) (power : Int) : Option Float :=
  let tenTo (n : Nat) := Float.ofScientific 1 false n
  if power.natAbs ≤ maxPower then
    if 0 ≤ power then
      let product := x * tenTo power.natAbs
      if product.isInf then none else some product
    else some (x / tenTo power.natAbs)
  else if x == 0 then some x
  else if 0 ≤ power then none
  else scale? (x / tenTo maxPower) (power + maxPower)
termination_by power.natAbs
decreasing_by
  simp only [maxPower] at *
  omega

/-- The float of a significand. -/
def float? (s : Significand) : Option Float :=
  scale? (Float.ofScientific s.significand false 0) s.power

end Significand

namespace Number

/-- What a literal stands for, if it is within bounds. The negative of zero is a float. -/
def ofLiteral? (literal : String) : Option Number :=
  let parts := NumberParts.ofLiteral literal
  let whole := Significand.ofWhole parts.whole
  let fits := if parts.isNegative then whole.significand ≤ 9223372036854775808
    && whole.significand ≠ 0 else true
  if parts.isInteger && !whole.isFull && fits then
    some (if parts.isNegative then .negative whole.significand else .natural whole.significand)
  else
    let all := whole.addFraction parts.fraction
    ({ all with power := all.power + parts.exponent }.float?).map fun x =>
      .float (if parts.isNegative then -x else x)

/-- How far the first digit of a float may stand before or behind the point for the float to be
written without a power of ten. -/
def isPositional (place : Int) : Bool := -5 ≤ place && place ≤ 15

/-- A decimal whose digits are written around a point. -/
def positional (digits : List Char) (place : Int) : List Char :=
  if place < 0 then '0' :: '.' :: (List.replicate (-place - 1).toNat '0' ++ digits)
  else
    let count := place.toNat + 1
    let whole := digits.take count ++ List.replicate (count - digits.length) '0'
    let fraction := digits.drop count
    whole ++ '.' :: (if fraction.isEmpty then ['0'] else fraction)

/-- A decimal as its first digit, the other ones behind a point, and a power of ten with its
sign. -/
def scientific (digits : List Char) (place : Int) : List Char :=
  let rest := digits.drop 1
  digits.take 1 ++ (if rest.isEmpty then [] else '.' :: rest)
    ++ 'e' :: (if place < 0 then '-' else '+') :: Nat.toDigits 10 place.natAbs

/-- A float in the form that is written for it: the fewest digits that identify it, without a
power of ten where that is not too long. -/
def floatText (x : Float) : String :=
  let sign := if x.toBits.toNat < 9223372036854775808 then [] else ['-']
  let d := Decimal.shortest x
  let digits := Nat.toDigits 10 d.digits
  let place := digits.length - 1 + d.exponent
  String.ofList <| sign ++
    if d.digits = 0 then ['0', '.', '0']
    else if isPositional place then positional digits place
    else scientific digits place

/-- A number in the form that is written for it. -/
def text : Number → String
  | .natural n => Numeral.decimal n
  | .negative n => "-" ++ Numeral.decimal n
  | .float x => floatText x

/-- The form that is written for a literal; a literal that stands for nothing keeps its own. -/
def canonicalText (literal : String) : String :=
  match ofLiteral? literal with
  | some n => n.text
  | none => literal

end Number

/-- The members of an object in the order of their keys, the last one where a key is repeated. -/
def lastOfEach : List (Option String × Json) → List (Option String × Json)
  | [] => []
  | [member] => [member]
  | a :: b :: rest => if a.1 = b.1 then lastOfEach (b :: rest) else a :: lastOfEach (b :: rest)

mutual

/-- A value in the form that is written for it: every number in its own form, and the members of
every object in the order of their keys. -/
def canonical : Json → Json
  | .number literal => .number (Number.canonicalText literal)
  | .array items => .array (canonicalItems items)
  | .object members =>
    .object (lastOfEach ((canonicalMembers members).mergeSort fun a b =>
      decide (a.1.getD "" ≤ b.1.getD "")))
  | j => j

def canonicalItems : List Json → List Json
  | [] => []
  | item :: rest => canonical item :: canonicalItems rest

def canonicalMembers : List (Option String × Json) → List (Option String × Json)
  | [] => []
  | (key, value) :: rest => (key, canonical value) :: canonicalMembers rest

end

end SmartAccount.Json
