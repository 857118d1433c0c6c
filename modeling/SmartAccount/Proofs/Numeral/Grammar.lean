import Mathlib.Data.List.Forall2
import Mathlib.Data.Nat.Digits.Defs
import SmartAccount.Proofs.Numeral
/-!
# The grammar of numerals

What numerals are is said here without a reader: a digit of a base is the digit of a number below
the base, in either case (`IsDigit`); a row of digits writes the number of which they are the
digits, underscores passed over (`Writes`); and a literal is such a row after the mark of its base
(`IsLiteral`). The readers accept exactly these texts, with these numbers
(`digit?_eq_some_iff`, `digits?_eq_some_iff`, `literal?_eq_some_iff`, `bounded?_eq_some_iff`).

A mark cannot be mistaken for digits: its letter is no digit of base ten, so only one reading of a
text is ever open.
-/

namespace SmartAccount.Numeral

/-! ## Digits -/

/-- The character is the digit of `d` in a base of at most sixteen, in lower or upper case. -/
def IsDigit (base : Nat) (c : Char) (d : Nat) : Prop :=
  d < base ∧ (c = Nat.digitChar d ∨ c = (Nat.digitChar d).toUpper)

theorem digit?_toUpper {base d : Nat} (hbase : base ≤ 16) (hd : d < base) :
    digit? base (Nat.digitChar d).toUpper = some d := by
  have hall : ∀ base < 17, ∀ d < base, digit? base (Nat.digitChar d).toUpper = some d := by decide
  exact hall base (by omega) d hd

/-- A character is the one with its number. -/
theorem eq_of_toNat_eq {c : Char} {n : Nat} (h : c.toNat = n) : c = Char.ofNat n := by
  rw [← h, Char.ofNat_toNat]

/-- The three rows of characters that are digits, each with the value of its members. -/
theorem digit?_cases {base d : Nat} {c : Char} (h : digit? base c = some d) :
    d < base ∧ (d < 10 ∧ c.toNat = 48 + d ∨ 10 ≤ d ∧ c.toNat = 87 + d
      ∨ 10 ≤ d ∧ c.toNat = 55 + d) := by
  unfold digit? at h
  simp only [Option.ite_none_right_eq_some, Option.some.injEq] at h
  split at h
  · next hnine =>
    have hlow : 48 ≤ c.toNat := hnine.1
    have hhigh : c.toNat ≤ 57 := hnine.2
    omega
  · split at h
    · next hsmall =>
      have hlow : 97 ≤ c.toNat := hsmall.1
      omega
    · split at h
      · next hlarge =>
        have hlow : 65 ≤ c.toNat := hlarge.1
        omega
      · exact absurd h.1 (Nat.lt_irrefl _)

theorem digit?_eq_some_iff {base d : Nat} {c : Char} (hbase : base ≤ 16) :
    digit? base c = some d ↔ IsDigit base c d := by
  constructor
  · intro h
    obtain ⟨hd, hrow⟩ := digit?_cases h
    have hsixteen : d < 16 := Nat.lt_of_lt_of_le hd hbase
    have hnine : ∀ d < 10, Char.ofNat (48 + d) = Nat.digitChar d := by decide
    have hsmall : ∀ d < 16, 10 ≤ d → Char.ofNat (87 + d) = Nat.digitChar d := by decide
    have hlarge : ∀ d < 16, 10 ≤ d → Char.ofNat (55 + d) = (Nat.digitChar d).toUpper := by decide
    rcases hrow with ⟨hlt, hc⟩ | ⟨hle, hc⟩ | ⟨hle, hc⟩
    · exact ⟨hd, .inl ((eq_of_toNat_eq hc).trans (hnine d hlt))⟩
    · exact ⟨hd, .inl ((eq_of_toNat_eq hc).trans (hsmall d hsixteen hle))⟩
    · exact ⟨hd, .inr ((eq_of_toNat_eq hc).trans (hlarge d hsixteen hle))⟩
  · rintro ⟨hd, rfl | rfl⟩
    · exact digit?_digitChar hbase hd
    · exact digit?_toUpper hbase hd

/-- No digit is one of the signs that stand between numbers, or in front of them. -/
theorem IsDigit.ne {base d : Nat} {c : Char} (hbase : base ≤ 16) (h : IsDigit base c d) :
    c ≠ '_' ∧ c ≠ ':' ∧ c ≠ 'x' ∧ c ≠ 'X' := by
  obtain ⟨hd, hrow⟩ := digit?_cases ((digit?_eq_some_iff hbase).mpr h)
  have hne {sign : Char} (hsign : sign.toNat = 95 ∨ sign.toNat = 58 ∨ sign.toNat = 120
      ∨ sign.toNat = 88) : c ≠ sign := by
    rintro rfl
    omega
  exact ⟨hne (.inl rfl), hne (.inr (.inl rfl)), hne (.inr (.inr (.inl rfl))),
    hne (.inr (.inr (.inr rfl)))⟩

/-- Each character of a row of digits is a digit. -/
theorem exists_isDigit {base : Nat} {row : List Char} {ds : List Nat}
    (h : List.Forall₂ (IsDigit base) row ds) {c : Char} (hc : c ∈ row) :
    ∃ d, IsDigit base c d := by
  induction h with
  | nil => cases hc
  | cons hdigit _ ih =>
    rcases List.mem_cons.mp hc with rfl | hmem
    · exact ⟨_, hdigit⟩
    · exact ih hmem

/-! ## Rows of digits -/

/-- The digits of a base that write a number, the first one the most significant. Underscores among
them say nothing. -/
def Writes (base : Nat) (text : List Char) (n : Nat) : Prop :=
  ∃ ds, List.Forall₂ (IsDigit base) (text.filter (· ≠ '_')) ds ∧ n = Nat.ofDigits base ds.reverse

/-- Adding digit after digit to a number that is multiplied by the base before each. -/
def shiftIn (base : Nat) (n : Nat) (ds : List Nat) : Nat := ds.foldl (base * · + ·) n

theorem shiftIn_zero (base : Nat) (ds : List Nat) :
    shiftIn base 0 ds = Nat.ofDigits base ds.reverse := by
  rw [Nat.ofDigits_eq_foldr, List.foldr_reverse]
  show ds.foldl (fun n d => base * n + d) 0 = ds.foldl (fun n d => d + base * n) 0
  simp only [Nat.add_comm]

/-- What the reader adds to the number that it has read so far. -/
theorem foldlM_extend?_eq_some_iff {base : Nat} (hbase : base ≤ 16) {text : List Char}
    {start n : Nat} :
    text.foldlM (extend? base) start = some n
      ↔ ∃ ds, List.Forall₂ (IsDigit base) (text.filter (· ≠ '_')) ds
        ∧ n = shiftIn base start ds := by
  -- each digit changes the number that the rest of the row starts from
  induction text generalizing start with
  | nil =>
    constructor
    · intro h
      cases h
      exact ⟨[], .nil, rfl⟩
    · rintro ⟨ds, hdigits, rfl⟩
      cases hdigits
      rfl
  | cons c text ih =>
    rw [List.foldlM_cons, Option.bind_eq_bind, Option.bind_eq_some_iff]
    by_cases hskip : c = '_'
    · have hfilter : (c :: text).filter (· ≠ '_') = text.filter (· ≠ '_') :=
        List.filter_cons_of_neg (by simp [hskip])
      rw [hfilter]
      simp only [extend?, if_pos hskip, Option.some.injEq, exists_eq_left']
      exact ih
    · have hfilter : (c :: text).filter (· ≠ '_') = c :: text.filter (· ≠ '_') :=
        List.filter_cons_of_pos (by simp [hskip])
      rw [hfilter]
      constructor
      · rintro ⟨next, hnext, htext⟩
        rw [extend?, if_neg hskip] at hnext
        obtain ⟨d, hd, rfl⟩ := Option.map_eq_some_iff.mp hnext
        obtain ⟨ds, hdigits, rfl⟩ := ih.mp htext
        exact ⟨d :: ds, .cons ((digit?_eq_some_iff hbase).mp hd) hdigits, rfl⟩
      · rintro ⟨ds, hdigits, rfl⟩
        obtain ⟨d, ds, hd, hrest, rfl⟩ := List.forall₂_cons_left_iff.mp hdigits
        refine ⟨base * start + d, ?_, ih.mpr ⟨ds, hrest, rfl⟩⟩
        rw [extend?, if_neg hskip, (digit?_eq_some_iff hbase).mpr hd, Option.map_some]

/-- The reader accepts the rows of digits of its base. -/
theorem digits?_eq_some_iff {base : Nat} (hbase : base ≤ 16) {text : List Char} {n : Nat} :
    digits? base text = some n ↔ Writes base text n := by
  rw [digits?, foldlM_extend?_eq_some_iff hbase]
  simp only [shiftIn_zero]
  rfl

/-- Each character of a row of digits is a digit or an underscore. -/
theorem Writes.mem {base : Nat} {text : List Char} {n : Nat} (h : Writes base text n) {c : Char}
    (hc : c ∈ text) : c = '_' ∨ ∃ d, IsDigit base c d := by
  obtain ⟨ds, hdigits, -⟩ := h
  by_cases hskip : c = '_'
  · exact .inl hskip
  · exact .inr (exists_isDigit hdigits (List.mem_filter.mpr ⟨hc, by simp [hskip]⟩))

/-! ## Literals -/

/-- A text is an integer literal: decimal digits, or digits of another base after its mark. -/
inductive IsLiteral : List Char → Nat → Prop
  | decimal {digits : List Char} {n : Nat} (h : Writes 10 digits n) : IsLiteral digits n
  | hex {x : Char} {digits : List Char} {n : Nat} (hmark : x = 'x' ∨ x = 'X')
    (h : Writes 16 digits n) : IsLiteral ('0' :: x :: digits) n
  | octal {o : Char} {digits : List Char} {n : Nat} (hmark : o = 'o' ∨ o = 'O')
    (h : Writes 8 digits n) : IsLiteral ('0' :: o :: digits) n
  | binary {b : Char} {digits : List Char} {n : Nat} (hmark : b = 'b' ∨ b = 'B')
    (h : Writes 2 digits n) : IsLiteral ('0' :: b :: digits) n

/-- Decimal digits do not start with the mark of another base. -/
theorem literal?_of_decimal {text : List Char} {n : Nat} (h : digits? 10 text = some n) :
    literal? text = some n := by
  unfold literal?
  -- behind a mark, its letter would be a decimal digit
  split
  case h_7 => exact h
  all_goals cases h

theorem literal?_eq_some_iff {text : List Char} {n : Nat} :
    literal? text = some n ↔ IsLiteral text n := by
  constructor
  · intro h
    unfold literal? at h
    split at h
    · exact .hex (.inl rfl) ((digits?_eq_some_iff (by omega)).mp h)
    · exact .hex (.inr rfl) ((digits?_eq_some_iff (by omega)).mp h)
    · exact .octal (.inl rfl) ((digits?_eq_some_iff (by omega)).mp h)
    · exact .octal (.inr rfl) ((digits?_eq_some_iff (by omega)).mp h)
    · exact .binary (.inl rfl) ((digits?_eq_some_iff (by omega)).mp h)
    · exact .binary (.inr rfl) ((digits?_eq_some_iff (by omega)).mp h)
    · exact .decimal ((digits?_eq_some_iff (by omega)).mp h)
  · rintro (hdigits | ⟨rfl | rfl, hdigits⟩ | ⟨rfl | rfl, hdigits⟩ | ⟨rfl | rfl, hdigits⟩)
    · exact literal?_of_decimal ((digits?_eq_some_iff (by omega)).mpr hdigits)
    all_goals exact (digits?_eq_some_iff (by omega)).mpr hdigits

/-- What is read into a bit string is a literal whose number the bit string holds. -/
theorem bounded?_eq_some_iff {width : Nat} {text : String} {bits : BitVec width} :
    bounded? width text = some bits ↔ IsLiteral text.toList bits.toNat := by
  unfold bounded?
  rw [Option.bind_eq_bind, Option.bind_eq_some_iff]
  constructor
  · rintro ⟨n, hliteral, hfit⟩
    rw [fit?_eq_some_iff.mp hfit] at hliteral
    exact literal?_eq_some_iff.mp hliteral
  · intro h
    exact ⟨bits.toNat, literal?_eq_some_iff.mpr h, fit?_eq_some_iff.mpr rfl⟩

end SmartAccount.Numeral
