import SmartAccount.Json.Reader
/-!
# Strings and numbers in JSON text

The two kinds of tokens that a JSON text is read by character. A string is read back from what it
is written as, whatever it holds and whatever follows (`readString_quote`): a character stands for
itself, or it is escaped by a letter or by its number, and `escape_cases` says which, so that the
reader takes one step for each character of the string.

A number has no closing mark. It is read as far as it goes, so it reads back in front of a text with
which it could not go on (`readNumber_append`); the commas, brackets, braces and blanks that can
stand behind a value are of that kind.
-/

namespace SmartAccount.Json

/-! ## Strings -/

/-- A character is escaped by a letter, by its number, or not at all. -/
theorem escape_cases (c : Char) :
    (∃ letter, letter ≠ 'u' ∧ shortEscape? letter = some c ∧ escape c = ['\\', letter])
      ∨ (c.toNat < 32 ∧ escape c
          = ['\\', 'u', '0', '0', Nat.digitChar (c.toNat / 16), Nat.digitChar (c.toNat % 16)])
      ∨ (32 ≤ c.toNat ∧ c ≠ '"' ∧ c ≠ '\\' ∧ escape c = [c]) := by
  by_cases hquote : c = '"'
  · subst hquote
    exact .inl ⟨'"', by decide, rfl, rfl⟩
  by_cases hbackslash : c = '\\'
  · subst hbackslash
    exact .inl ⟨'\\', by decide, rfl, rfl⟩
  by_cases hnewline : c = '\n'
  · subst hnewline
    exact .inl ⟨'n', by decide, rfl, rfl⟩
  by_cases hreturn : c = '\r'
  · subst hreturn
    exact .inl ⟨'r', by decide, rfl, rfl⟩
  by_cases htab : c = '\t'
  · subst htab
    exact .inl ⟨'t', by decide, rfl, rfl⟩
  by_cases hbackspace : c = '\x08'
  · subst hbackspace
    exact .inl ⟨'b', by decide, rfl, rfl⟩
  by_cases hfeed : c = '\x0c'
  · subst hfeed
    exact .inl ⟨'f', by decide, rfl, rfl⟩
  unfold escape
  rw [if_neg hquote, if_neg hbackslash, if_neg hnewline, if_neg hreturn, if_neg htab,
    if_neg hbackspace, if_neg hfeed]
  by_cases hcontrol : c.toNat < 32
  · exact .inr (.inl ⟨hcontrol, if_pos hcontrol⟩)
  · exact .inr (.inr ⟨by omega, hquote, hbackslash, if_neg hcontrol⟩)

/-- The two hex digits of a control character write its number. -/
theorem codeUnit?_control {n : Nat} (hn : n < 32) (rest : List Char) :
    codeUnit? ('0' :: '0' :: Nat.digitChar (n / 16) :: Nat.digitChar (n % 16) :: rest)
      = some (n, rest) := by
  have hdigit : ∀ n < 16, Numeral.digit? 16 (Nat.digitChar n) = some n := by decide
  have hzero : Numeral.digit? 16 '0' = some 0 := rfl
  have hjoin : ((0 * 16 + 0) * 16 + n / 16) * 16 + n % 16 = n := by omega
  simp only [codeUnit?, hzero, hdigit (n / 16) (by omega), hdigit (n % 16) (by omega), bind,
    Option.bind, hjoin]

/-- Each character of a string is read back from what stands for it. -/
theorem readParts_escape {c : Char} {fuel : Nat} {text rest : List Char} {parts : List Unit16}
    (h : readParts fuel text = some (parts, rest)) :
    readParts (fuel + 1) (escape c ++ text) = some (.char c :: parts, rest) := by
  rcases escape_cases c with ⟨letter, hu, hletter, hc⟩ | ⟨hcontrol, hc⟩ | ⟨hlow, hq, hb, hc⟩
  · rw [hc]
    show readParts (fuel + 1) ('\\' :: letter :: text) = some (.char c :: parts, rest)
    rw [readParts]
    · simp only [hletter, h, bind, Option.bind]
    · exact hu
  · have hhigh : ¬(0xD800 ≤ c.toNat ∧ c.toNat < 0xDC00) := by omega
    have hlow : ¬(0xDC00 ≤ c.toNat ∧ c.toNat < 0xE000) := by omega
    rw [hc]
    show readParts (fuel + 1) ('\\' :: 'u' :: '0' :: '0' :: Nat.digitChar (c.toNat / 16)
      :: Nat.digitChar (c.toNat % 16) :: text) = some (.char c :: parts, rest)
    rw [readParts]
    simp only [codeUnit?_control hcontrol, h, bind, Option.bind, if_neg hhigh, if_neg hlow,
      Char.ofNat_toNat]
  · have hplain : ¬(decide (c.toNat < 32) || decide (c = '\\')) = true := by
      simp only [Bool.or_eq_true, decide_eq_true_eq, not_or]
      exact ⟨by omega, hb⟩
    rw [hc]
    show readParts (fuel + 1) (c :: text) = some (.char c :: parts, rest)
    rw [readParts]
    · rw [if_neg hplain, h]
      rfl
    · exact hq
    · intro rest' heq
      exact absurd heq hb
    · intro letter rest' heq
      exact absurd heq hb

theorem readParts_quote (fuel : Nat) (rest : List Char) :
    readParts (fuel + 1) ('"' :: rest) = some ([], rest) := rfl

/-- The characters of a string are read up to the closing quote. -/
theorem readParts_string (cs rest : List Char) (fuel : Nat) (hfuel : cs.length < fuel) :
    readParts fuel (cs.flatMap escape ++ '"' :: rest) = some (cs.map .char, rest) := by
  induction cs generalizing fuel with
  | nil =>
    obtain ⟨fuel, rfl⟩ : ∃ n, fuel = n + 1 := ⟨fuel - 1, by rw [List.length_nil] at hfuel; omega⟩
    exact readParts_quote fuel rest
  | cons c cs ih =>
    rw [List.length_cons] at hfuel
    obtain ⟨fuel, rfl⟩ : ∃ n, fuel = n + 1 := ⟨fuel - 1, by omega⟩
    rw [List.flatMap_cons, List.append_assoc]
    exact readParts_escape (ih fuel (by omega))

theorem joinParts_chars (cs : List Char) : joinParts (cs.map .char) = some cs := by
  induction cs with
  | nil => rfl
  | cons c cs ih => rw [List.map_cons, joinParts, ih, Option.map_some]

theorem length_escape_pos (c : Char) : 1 ≤ (escape c).length := by
  rcases escape_cases c with ⟨letter, -, -, hc⟩ | ⟨-, hc⟩ | ⟨-, -, -, hc⟩
  all_goals
    rw [hc]
    simp

theorem length_le_flatMap_escape (cs : List Char) : cs.length ≤ (cs.flatMap escape).length := by
  induction cs with
  | nil => exact Nat.le_refl 0
  | cons c cs ih =>
    have := length_escape_pos c
    rw [List.flatMap_cons, List.length_append, List.length_cons]
    omega

/-- A string between quotes reads back, whatever follows. -/
theorem readString_quote (s : String) (rest : List Char) :
    readString (s.toList.flatMap escape ++ '"' :: rest) = some (some s, rest) := by
  have hfuel := length_le_flatMap_escape s.toList
  have hparts := readParts_string s.toList rest
    ((s.toList.flatMap escape ++ '"' :: rest).length + 1) (by
      rw [List.length_append]
      omega)
  unfold readString
  rw [hparts]
  simp only [bind, Option.bind, joinParts_chars, Option.map_some, String.ofList_toList]

/-! ## Numbers -/

/-- A text behind a number with which the number could not go on. -/
def EndsNumber (text : List Char) : Prop :=
  ∀ c ∈ text.head?, isDigit c = false ∧ c ≠ '.' ∧ c ≠ 'e' ∧ c ≠ 'E'

theorem readWhole_zero {rest : List Char} (h : ∀ c ∈ rest.head?, isDigit c = false) :
    readWhole ('0' :: rest) = some (['0'], rest) := by
  cases rest with
  | nil => rfl
  | cons c rest => rw [readWhole, h c rfl, if_neg Bool.false_ne_true]

theorem readWhole_of_ne {c : Char} (h : c ≠ '0') (rest : List Char) :
    readWhole (c :: rest) = readDigits (c :: rest) := by
  rw [readWhole]
  intro rest' heq
  exact h (List.cons.inj heq).1

theorem readFraction_of_ne {text : List Char} (h : ∀ c ∈ text.head?, c ≠ '.') :
    readFraction text = some ([], text) := by
  rw [readFraction]
  rintro rest rfl
  exact h '.' rfl rfl

theorem readExponent_of_ne {text : List Char} (h : ∀ c ∈ text.head?, c ≠ 'e' ∧ c ≠ 'E') :
    readExponent text = some ([], text) := by
  cases text with
  | nil => rfl
  | cons c rest =>
    have hc : ¬(decide (c = 'e') || decide (c = 'E')) = true := by
      simp only [Bool.or_eq_true, decide_eq_true_eq, not_or]
      exact h c rfl
    exact if_neg hc

section Numbers

variable {text rest part tail : List Char} (htail : EndsNumber tail)
include htail

theorem takeWhile_isDigit_append (text : List Char) :
    (text ++ tail).takeWhile isDigit = text.takeWhile isDigit
      ∧ (text ++ tail).dropWhile isDigit = text.dropWhile isDigit ++ tail := by
  induction text with
  | nil =>
    cases tail with
    | nil => exact ⟨rfl, rfl⟩
    | cons c tail =>
      have hc : isDigit c = false := (htail c rfl).1
      simp only [List.nil_append, List.takeWhile_cons, List.dropWhile_cons, hc]
      exact ⟨rfl, rfl⟩
  | cons c text ih =>
    rw [List.cons_append]
    by_cases hc : isDigit c = true
    · simp only [List.takeWhile_cons, List.dropWhile_cons, hc, if_true, ih.1, ih.2, and_self]
    · simp only [List.takeWhile_cons, List.dropWhile_cons, hc, if_false, List.cons_append,
        Bool.false_eq_true, and_self]

theorem readDigits_append (h : readDigits text = some (part, rest)) :
    readDigits (text ++ tail) = some (part, rest ++ tail) := by
  obtain ⟨htake, hdrop⟩ := takeWhile_isDigit_append htail text
  unfold readDigits at h ⊢
  rw [htake, hdrop]
  by_cases hempty : (text.takeWhile isDigit).isEmpty = true
  · rw [if_pos hempty] at h
    cases h
  · rw [if_neg hempty, Option.some.injEq, Prod.mk.injEq] at h
    rw [if_neg hempty, h.1, h.2]

theorem readWhole_append (h : readWhole text = some (part, rest)) :
    readWhole (text ++ tail) = some (part, rest ++ tail) := by
  cases text with
  | nil => cases h
  | cons c text =>
    by_cases hzero : c = '0'
    · subst hzero
      cases text with
      | nil =>
        change some (['0'], []) = some (part, rest) at h
        rw [Option.some.injEq, Prod.mk.injEq] at h
        rw [← h.1, ← h.2]
        exact readWhole_zero fun d hd => (htail d hd).1
      | cons d text =>
        by_cases hd : isDigit d = true
        · -- a zero in front of another digit is refused
          rw [readWhole, if_pos hd] at h
          cases h
        · rw [readWhole, if_neg hd, Option.some.injEq, Prod.mk.injEq] at h
          rw [← h.1, ← h.2]
          exact if_neg hd
    · rw [readWhole_of_ne hzero] at h
      rw [List.cons_append, readWhole_of_ne hzero, ← List.cons_append, readDigits_append htail h]

theorem readFraction_append (h : readFraction text = some (part, rest)) :
    readFraction (text ++ tail) = some (part, rest ++ tail) := by
  cases text with
  | nil =>
    change some ([], []) = some (part, rest) at h
    rw [Option.some.injEq, Prod.mk.injEq] at h
    rw [← h.1, ← h.2]
    exact readFraction_of_ne fun c hc => (htail c hc).2.1
  | cons c text =>
    by_cases hpoint : c = '.'
    · subst hpoint
      rw [readFraction, Option.map_eq_some_iff] at h
      obtain ⟨⟨digits, after⟩, hdigits, heq⟩ := h
      rw [List.cons_append, readFraction, readDigits_append htail hdigits]
      cases heq
      rfl
    · have hhead {more : List Char} : ∀ d ∈ (c :: more).head?, d ≠ '.' := by
        intro d hd
        cases hd
        exact hpoint
      rw [readFraction_of_ne hhead, Option.some.injEq, Prod.mk.injEq] at h
      rw [← h.1, ← h.2]
      exact readFraction_of_ne hhead

theorem readExponent_append (h : readExponent text = some (part, rest)) :
    readExponent (text ++ tail) = some (part, rest ++ tail) := by
  cases text with
  | nil =>
    change some ([], []) = some (part, rest) at h
    rw [Option.some.injEq, Prod.mk.injEq] at h
    rw [← h.1, ← h.2]
    exact readExponent_of_ne fun c hc => (htail c hc).2.2
  | cons c text =>
    by_cases hmark : (decide (c = 'e') || decide (c = 'E')) = true
    · cases text with
      | nil =>
        have : readExponent [c] = none := if_pos hmark
        rw [this] at h
        cases h
      | cons s text =>
        have hmarked (more : List Char) : readExponent (c :: s :: more)
            = if (decide (s = '+') || decide (s = '-')) = true then
                (readDigits more).map fun read => (c :: s :: read.1, read.2)
              else (readDigits (s :: more)).map fun read => (c :: read.1, read.2) :=
          if_pos hmark
        rw [hmarked] at h
        rw [List.cons_append, List.cons_append, hmarked]
        split
        next hsign =>
          rw [if_pos hsign, Option.map_eq_some_iff] at h
          obtain ⟨⟨digits, after⟩, hdigits, heq⟩ := h
          rw [readDigits_append htail hdigits]
          cases heq
          rfl
        next hsign =>
          rw [if_neg hsign, Option.map_eq_some_iff] at h
          obtain ⟨⟨digits, after⟩, hdigits, heq⟩ := h
          rw [← List.cons_append, readDigits_append htail hdigits]
          cases heq
          rfl
    · have hother (more : List Char) : readExponent (c :: more) = some ([], c :: more) :=
        if_neg hmark
      rw [hother, Option.some.injEq, Prod.mk.injEq] at h
      rw [← h.1, ← h.2]
      exact hother _

end Numbers

/-- What is read of a number behind its sign. -/
def readUnsigned (sign text : List Char) : Option (String × List Char) := do
  let (whole, text) ← readWhole text
  let (fraction, text) ← readFraction text
  let (exponent, text) ← readExponent text
  some (String.ofList (sign ++ whole ++ fraction ++ exponent), text)

theorem readNumber_minus (rest : List Char) :
    readNumber ('-' :: rest) = readUnsigned ['-'] rest := rfl

theorem readNumber_of_ne {c : Char} (h : c ≠ '-') (rest : List Char) :
    readNumber (c :: rest) = readUnsigned [] (c :: rest) := by
  unfold readNumber
  split
  next sign text heq =>
    split at heq
    next more hmore => exact absurd (List.cons.inj hmore).1 h
    next =>
      cases heq
      rfl

theorem readUnsigned_append {sign text rest tail : List Char} {literal : String}
    (htail : EndsNumber tail) (h : readUnsigned sign text = some (literal, rest)) :
    readUnsigned sign (text ++ tail) = some (literal, rest ++ tail) := by
  simp only [readUnsigned, bind, Option.bind_eq_some_iff, Prod.exists] at h
  obtain ⟨whole, afterWhole, hwhole, fraction, afterFraction, hfraction, exponent, afterExponent,
    hexponent, hliteral⟩ := h
  rw [Option.some.injEq, Prod.mk.injEq] at hliteral
  simp only [readUnsigned, readWhole_append htail hwhole, readFraction_append htail hfraction,
    readExponent_append htail hexponent, bind, Option.bind, hliteral.1, hliteral.2]

/-- A text is a number from its first character to its last. -/
def IsNumber (literal : String) : Prop := readNumber literal.toList = some (literal, [])

instance (literal : String) : Decidable (IsNumber literal) :=
  inferInstanceAs (Decidable (_ = _))

/-- A number starts with a digit or with a minus sign. -/
theorem readNumber_head {text rest : List Char} {literal : String}
    (h : readNumber text = some (literal, rest)) :
    ∃ c more, text = c :: more ∧ (isDigit c = true ∨ c = '-') := by
  cases text with
  | nil => cases h
  | cons c text =>
    refine ⟨c, text, rfl, ?_⟩
    by_cases hminus : c = '-'
    · exact .inr hminus
    · by_cases hzero : c = '0'
      · subst hzero
        exact .inl rfl
      · -- the whole part needs a digit
        refine .inl ?_
        by_cases hdigit : isDigit c = true
        · exact hdigit
        · have hnone : readDigits (c :: text) = none := by
            unfold readDigits
            rw [List.takeWhile_cons_of_neg hdigit]
            rfl
          rw [readNumber_of_ne hminus] at h
          simp only [readUnsigned, readWhole_of_ne hzero, hnone, bind, Option.bind] at h
          cases h

/-- A number reads back in front of anything that ends it. -/
theorem readNumber_append {text rest tail : List Char} {literal : String}
    (htail : EndsNumber tail) (h : readNumber text = some (literal, rest)) :
    readNumber (text ++ tail) = some (literal, rest ++ tail) := by
  obtain ⟨c, more, rfl, -⟩ := readNumber_head h
  by_cases hminus : c = '-'
  · subst hminus
    rw [readNumber_minus] at h
    rw [List.cons_append, readNumber_minus, readUnsigned_append htail h]
  · rw [readNumber_of_ne hminus] at h
    rw [List.cons_append, readNumber_of_ne hminus, ← List.cons_append,
      readUnsigned_append htail h]

end SmartAccount.Json
