import SmartAccount.Proofs.Call.Grammar
/-!
# The text of a call read back

The text that a call is written as is one of the texts that are read as the call
(`Call.reads_text`): the checksummed target has the digits of the address, the decimal value is a
literal without a mark, the data stand behind theirs. None of the three has a colon in it, because
no digit is one, so the text falls into the same three parts again (`Call.parts_text`). Printing and
parsing are therefore inverse as far as they can be: a call is what its text is read as, and a text
that is read may be another one than the text of the call, but not of another call
(`Call.text_round_trip`).
-/

namespace SmartAccount

namespace Numeral

/-- A row of digits has no colon in it. -/
theorem Writes.colon_notMem {base n : Nat} {text : List Char} (hbase : base ≤ 16)
    (h : Writes base text n) : ':' ∉ text := by
  intro hmem
  rcases h.mem hmem with hskip | ⟨d, hdigit⟩
  · cases hskip
  · exact (hdigit.ne hbase).2.1 rfl

/-- The decimal digits of a number write it, and no mark stands in front of them. -/
theorem writes_decimal (n : Nat) : Writes 10 (decimal n).toList n := by
  rw [decimal, String.toList_ofList]
  exact (digits?_eq_some_iff (by omega)).mp (digits?_toDigits (by omega) (by omega) n)

end Numeral

/-- A text that writes bytes has no colon in it. -/
theorem Hex.Writes.colon_notMem {text : String} {bytes : Bytes} (h : Hex.Writes text bytes) :
    ':' ∉ text.toList := by
  obtain ⟨digits, hmarked, hdigits⟩ := h
  have hrow : ':' ∉ digits := by
    intro hmem
    obtain ⟨d, hdigit⟩ := Numeral.exists_isDigit hdigits hmem
    exact (hdigit.ne (by omega)).2.1 rfl
  rcases hmarked with h | h | h
  · rwa [h]
  · rw [h]
    simpa using hrow
  · rw [h]
    simpa using hrow

namespace Call

theorem parts_text (c : Call) :
    parts c.text
      = [c.target.checksummed, Numeral.decimal c.value.toNat, Hex.text c.data] := by
  have htarget := c.target.writes_checksummed.colon_notMem
  have hvalue := (Numeral.writes_decimal c.value.toNat).colon_notMem (by omega)
  have hdata := (Hex.parse?_eq_some_iff.mp (Hex.parse?_text c.data)).colon_notMem
  have htext : c.text = c.target.checksummed ++ ":"
      ++ (Numeral.decimal c.value.toNat ++ ":" ++ Hex.text c.data) := by
    simp only [text, String.append_assoc]
  rw [htext, parts_append htarget, parts_append hvalue, parts_of_not_mem hdata]

/-- The text of a call is read as the call. -/
theorem reads_text (c : Call) : Reads c.text (.ok c) := by
  refine .call c.parts_text (Nat.le_refl 2) c.target.writes_checksummed (Says.written ?_)
    (Says.written ?_)
  · exact .decimal (Numeral.writes_decimal c.value.toNat)
  · exact Hex.parse?_eq_some_iff.mp (Hex.parse?_text c.data)

/-- **Printing a call and parsing it back.** The text of a call has three parts and parses to the
call. Hence different calls have different texts; and whatever a text parses to, the text of that
call parses to the same. -/
theorem text_round_trip :
    (∀ c : Call,
        parts c.text = [c.target.checksummed, Numeral.decimal c.value.toNat, Hex.text c.data]
          ∧ parse c.text = .ok c)
      ∧ (∀ a b : Call, a.text = b.text ↔ a = b)
      ∧ ∀ s : String, (parse s >>= fun c => parse c.text) = parse s := by
  have hparse (c : Call) : parse c.text = .ok c := c.reads_text.parse_eq
  refine ⟨fun c => ⟨c.parts_text, hparse c⟩, fun a b => ⟨fun h => ?_, congrArg text⟩, fun s => ?_⟩
  · have hsame : Except.ok a = (.ok b : Except ParseError Call) := by
      rw [← hparse a, h, hparse b]
    exact Except.ok.inj hsame
  · simp only [hparse]
    cases parse s with
    | error e => rfl
    | ok c => rfl

end Call

end SmartAccount
