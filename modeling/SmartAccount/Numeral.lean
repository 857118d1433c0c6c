/-!
# Integers in text

Amounts are read from command lines and from JSON in one grammar: decimal digits, or the
digits of another base after `0x`, `0o` or `0b`, underscores skipped wherever they stand. They
are written in decimal, or as a *quantity*: `0x` and as few hex digits as will do.
-/

namespace SmartAccount.Numeral

/-- The value of a digit in a base of at most 36; letters of either case follow the nine. -/
def digit? (base : Nat) (c : Char) : Option Nat :=
  let value :=
    if '0' ≤ c ∧ c ≤ '9' then c.toNat - 48
    else if 'a' ≤ c ∧ c ≤ 'z' then c.toNat - 87
    else if 'A' ≤ c ∧ c ≤ 'Z' then c.toNat - 55
    else base
  if value < base then some value else none

/-- One more character of a numeral: a digit extends the number, an underscore is skipped. -/
def extend? (base : Nat) (n : Nat) (c : Char) : Option Nat :=
  if c = '_' then some n else (digit? base c).map (base * n + ·)

/-- The number that digits write in a base. No digits write zero. -/
def digits? (base : Nat) (text : List Char) : Option Nat :=
  text.foldlM (extend? base) 0

/-- An integer literal: the first two characters may name the base, which is ten otherwise. -/
def literal? : List Char → Option Nat
  | '0' :: 'x' :: rest => digits? 16 rest
  | '0' :: 'X' :: rest => digits? 16 rest
  | '0' :: 'o' :: rest => digits? 8 rest
  | '0' :: 'O' :: rest => digits? 8 rest
  | '0' :: 'b' :: rest => digits? 2 rest
  | '0' :: 'B' :: rest => digits? 2 rest
  | text => digits? 10 text

/-- A number as a bit string, if it fits into `width` bits. -/
def fit? (width n : Nat) : Option (BitVec width) :=
  if (BitVec.ofNat width n).toNat = n then some (BitVec.ofNat width n) else none

theorem fit?_eq_some_iff {width n : Nat} {bits : BitVec width} :
    fit? width n = some bits ↔ n = bits.toNat := by
  unfold fit?
  split
  · rename_i fits
    constructor
    · intro h
      cases h
      exact fits.symm
    · intro h
      rw [h, BitVec.ofNat_toNat, BitVec.setWidth_eq]
  · rename_i unfit
    constructor
    · intro h
      cases h
    · intro h
      rw [h, BitVec.ofNat_toNat, BitVec.setWidth_eq] at unfit
      exact absurd rfl unfit

/-- An integer literal whose value fits into `width` bits. -/
def bounded? (width : Nat) (text : String) : Option (BitVec width) :=
  literal? text.toList >>= fit? width

/-- The decimal text of a number. -/
def decimal (n : Nat) : String := String.ofList (Nat.toDigits 10 n)

/-- The decimal text of an integer, after a minus sign if it is negative. -/
def signed (n : Int) : String :=
  if n < 0 then "-" ++ decimal n.natAbs else decimal n.natAbs

/-- The shortest hex text of a number, after `0x`. -/
def quantity (n : Nat) : String := String.ofList ('0' :: 'x' :: Nat.toDigits 16 n)

/-- A plain decimal integer: digits only, at least one, without a base or underscores. A plus
sign may stand in front. -/
def plain? (text : String) : Option Nat :=
  let digits := match text.toList with
    | '+' :: rest => rest
    | cs => cs
  if digits.isEmpty then none
  else digits.foldlM (fun n c => (digit? 10 c).map (10 * n + ·)) 0

/-- A plain decimal integer that fits into `width` bits. -/
def plainBounded? (width : Nat) (text : String) : Option (BitVec width) :=
  plain? text >>= fit? width

end SmartAccount.Numeral
