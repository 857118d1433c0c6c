import SmartAccount.Numeral
/-!
# Numerals read back

The digits that a number is written with are read as the number, in each base whose digits are read
(`digits?_toDigits`): the last digit is the remainder, so the induction takes digits off the end,
where the reader arrives last. An amount that is written as a quantity is read back with any width
that holds it (`bounded?_quantity`).
-/

namespace SmartAccount.Numeral

theorem digit?_digitChar {base d : Nat} (hbase : base ≤ 16) (hd : d < base) :
    digit? base (Nat.digitChar d) = some d := by
  have hall : ∀ base < 17, ∀ d < base, digit? base (Nat.digitChar d) = some d := by decide
  exact hall base (by omega) d hd

theorem digitChar_ne_underscore {d : Nat} (hd : d < 16) : Nat.digitChar d ≠ '_' := by
  have hall : ∀ d < 16, Nat.digitChar d ≠ '_' := by decide
  exact hall d hd

/-- A number is read back from its digits in any base of at most sixteen. -/
theorem digits?_toDigits {base : Nat} (hlow : 2 ≤ base) (hhigh : base ≤ 16) (n : Nat) :
    digits? base (Nat.toDigits base n) = some n := by
  -- the last digit is read last
  induction n using Nat.strongRecOn with
  | ind n ih =>
    have hextend (n d : Nat) (hd : d < base) :
        extend? base n (Nat.digitChar d) = some (base * n + d) := by
      unfold extend?
      rw [if_neg (digitChar_ne_underscore (by omega)), digit?_digitChar hhigh hd, Option.map_some]
    rw [Nat.toDigits_eq_if (by omega)]
    split
    next hn =>
      show (extend? base 0 (Nat.digitChar n)).bind some = some n
      rw [hextend 0 n hn, Nat.mul_zero, Nat.zero_add]
      rfl
    next hn =>
      have hdigits := ih (n / base) (Nat.div_lt_self (by omega) (by omega))
      unfold digits? at hdigits ⊢
      rw [List.foldlM_append, hdigits]
      show (extend? base (n / base) (Nat.digitChar (n % base))).bind some = some n
      rw [hextend _ _ (Nat.mod_lt _ (by omega)), Nat.div_add_mod]
      rfl

/-- An amount is read back from its quantity. -/
theorem bounded?_quantity {width : Nat} (n : BitVec width) :
    bounded? width (quantity n.toNat) = some n := by
  have hliteral : literal? (quantity n.toNat).toList = some n.toNat := by
    rw [quantity, String.toList_ofList]
    exact digits?_toDigits (by omega) (by omega) n.toNat
  unfold bounded?
  rw [hliteral]
  exact fit?_eq_some_iff.mpr rfl

end SmartAccount.Numeral
