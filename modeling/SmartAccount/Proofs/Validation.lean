import SmartAccount.Proofs.WordBytes
import SmartAccount.Validation
/-!
# Nothing of a validation word is lost

A validation word has three fields, and three of the values in them stand for something else: the
last second zero for no end, and the aggregators zero and one for no aggregator and for a signature
that is not valid. What is told of a word (`Verdict`) has these things by names of their own, so the
question is whether a name can be taken for an ordinary value, and two words for one another.

`Verdict.Tells` says what is told of three fields, and `verdict_tells` that this is what is told of
the fields of a word. The other way, each field follows from what is told of it
(`Tells.lastField_eq`, `Tells.authorizerField_eq`): a last second of 48 bits is never the second
that stands for no end, and an aggregator that is told is neither zero nor one. With its three
fields a word is known (`fieldsNumber_fields`).
-/

namespace SmartAccount

namespace ValidationData

/-- What is told of validation data: the answers to the four questions that it can be asked. -/
structure Verdict where
  signatureValid : Bool
  aggregator : Option Address
  validAfter : BitVec 64
  validUntil : BitVec 64
  deriving DecidableEq

def verdict (v : ValidationData) : Verdict :=
  ⟨v.signatureValid, v.aggregator, v.validAfter, v.validUntil⟩

namespace Verdict

/-- The last second as a word has it. -/
def lastField (v : Verdict) : Nat := if v.validUntil = unbounded then 0 else v.validUntil.toNat

/-- The aggregator as a word has it. -/
def authorizerField (v : Verdict) : Nat :=
  if v.signatureValid then (v.aggregator.map BitVec.toNat).getD 0 else 1

/-- The verdict is what three fields stand for: the first second, the last second and the
aggregator. -/
structure Tells (v : Verdict) (first last authorizer : Nat) : Prop where
  validAfter_eq : v.validAfter.toNat = first
  validUntil_eq : v.validUntil.toNat = if last = 0 then 2 ^ 64 - 1 else last
  unbounded_iff : v.validUntil = unbounded ↔ last = 0
  signatureValid_iff : v.signatureValid = true ↔ authorizer ≠ 1
  aggregator_iff (a : Address) :
    v.aggregator = some a ↔ a.toNat = authorizer ∧ authorizer ≠ 0 ∧ authorizer ≠ 1

section Tells

variable {v : Verdict} {first last authorizer : Nat} (h : v.Tells first last authorizer)
include h

theorem Tells.lastField_eq : v.lastField = last := by
  unfold lastField
  by_cases hlast : last = 0
  · rw [if_pos (h.unbounded_iff.mpr hlast), hlast]
  · rw [if_neg fun hend => hlast (h.unbounded_iff.mp hend), h.validUntil_eq, if_neg hlast]

theorem Tells.authorizerField_eq (hfits : authorizer < 2 ^ 160) :
    v.authorizerField = authorizer := by
  unfold authorizerField
  by_cases hone : authorizer = 1
  · rw [if_neg fun hvalid => h.signatureValid_iff.mp hvalid hone, hone]
  rw [if_pos (h.signatureValid_iff.mpr hone)]
  by_cases hzero : authorizer = 0
  · -- no address is told, so there is none
    have hnone : v.aggregator = none := by
      cases haggregator : v.aggregator with
      | none => rfl
      | some a => exact absurd hzero ((h.aggregator_iff a).mp haggregator).2.1
    rw [hnone, hzero]
    rfl
  · have htoNat : (BitVec.ofNat 160 authorizer).toNat = authorizer := Nat.mod_eq_of_lt hfits
    rw [(h.aggregator_iff _).mpr ⟨htoNat, hzero, hone⟩]
    exact htoNat

/-- A last second of 48 bits is in the range in which an end is told, or stands for no end. -/
theorem Tells.validUntil_cases (hfits : last < 2 ^ 48) :
    v.validUntil.toNat = 2 ^ 64 - 1 ∨ 1 ≤ v.validUntil.toNat ∧ v.validUntil.toNat < 2 ^ 48 := by
  rw [h.validUntil_eq]
  by_cases hlast : last = 0
  · exact .inl (if_pos hlast)
  · rw [if_neg hlast]
    exact .inr ⟨by omega, hfits⟩

end Tells

end Verdict

/-! ## The fields of a word -/

/-- The number that has the three fields at their places. -/
def fieldsNumber (first last authorizer : Nat) : Nat :=
  first * 2 ^ 208 + last * 2 ^ 160 + authorizer

/-- The three fields one after the other, in 6, 6 and 20 bytes. -/
def fieldsBytes (first last authorizer : Nat) : Bytes :=
  BigEndian.encode 6 first ++ BigEndian.encode 6 last ++ BigEndian.encode 20 authorizer

/-- The three fields of a number are at the places where they were put. -/
theorem fields_fieldsNumber {first last authorizer : Nat} (hfirst : first < 2 ^ 48)
    (hlast : last < 2 ^ 48) (hauthorizer : authorizer < 2 ^ 160) :
    fieldsNumber first last authorizer < 2 ^ 256
      ∧ fieldsNumber first last authorizer / 2 ^ 208 = first
      ∧ fieldsNumber first last authorizer / 2 ^ 160 % 2 ^ 48 = last
      ∧ fieldsNumber first last authorizer % 2 ^ 160 = authorizer := by
  unfold fieldsNumber
  omega

/-- A number is made of the three fields in it. -/
theorem fieldsNumber_fields (n : Nat) :
    fieldsNumber (n / 2 ^ 208) (n / 2 ^ 160 % 2 ^ 48) (n % 2 ^ 160) = n := by
  unfold fieldsNumber
  omega

/-- The bytes of a word are the three fields, one after the other. -/
theorem bytes_eq_fieldsBytes (w : Word) :
    w.bytes
      = fieldsBytes (w.toNat / 2 ^ 208) (w.toNat / 2 ^ 160 % 2 ^ 48) (w.toNat % 2 ^ 160) := by
  have hlow : w.toNat % 2 ^ 160 = w.toNat % 256 ^ 20 := rfl
  have hmiddle : w.toNat / 2 ^ 160 % 2 ^ 48 = w.toNat / 256 ^ 20 % 256 ^ 6 := rfl
  have hhigh : w.toNat / 2 ^ 208 = w.toNat / 256 ^ 20 / 256 ^ 6 := by
    rw [Nat.div_div_eq_div_mul]
    rfl
  unfold fieldsBytes
  rw [hlow, hmiddle, hhigh, BigEndian.encode_mod, BigEndian.encode_mod,
    ← BigEndian.encode_add 6 6, ← BigEndian.encode_add 12 20]
  rfl

/-! ## What is told of a word -/

theorem signatureValid_iff {v : ValidationData} :
    v.signatureValid = true ↔ v.authorizer ≠ signatureFailed :=
  decide_eq_true_iff

/-- The aggregator that is told is the one in the word, and none that stands for something else. -/
theorem aggregator_eq_some_iff {v : ValidationData} {a : Address} :
    v.aggregator = some a ↔ v.authorizer = a ∧ a ≠ signatureFailed ∧ a ≠ 0 := by
  unfold aggregator
  by_cases hspecial : v.authorizer = signatureFailed ∨ v.authorizer = 0
  · rw [if_pos hspecial]
    refine iff_of_false nofun ?_
    rintro ⟨rfl, hfailed, hzero⟩
    exact hspecial.elim hfailed hzero
  · rw [if_neg hspecial, Option.some.injEq]
    constructor
    · rintro rfl
      exact ⟨rfl, not_or.mp hspecial⟩
    · intro h
      exact h.1

/-- A window of 48 bits as a second. -/
theorem toNat_second (w : Word) (start : Nat) :
    ((w.extractLsb' start 48).setWidth 64).toNat = w.toNat / 2 ^ start % 2 ^ 48 := by
  rw [BitVec.toNat_setWidth_of_le (by omega), BitVec.extractLsb'_toNat, Nat.shiftRight_eq_div_pow]

theorem toNat_validAfter (w : Word) : (ofWord w).validAfter.toNat = w.toNat / 2 ^ 208 := by
  have hw := w.isLt
  have hsecond := toNat_second w 208
  show ((w.extractLsb' 208 48).setWidth 64).toNat = w.toNat / 2 ^ 208
  omega

theorem toNat_authorizer (w : Word) : (ofWord w).authorizer.toNat = w.toNat % 2 ^ 160 :=
  BitVec.toNat_setWidth 160 w

/-- The last second is the one in the word, and zero stands for none. -/
theorem validUntil_cases (w : Word) :
    (w.toNat / 2 ^ 160 % 2 ^ 48 = 0 ∧ (ofWord w).validUntil = unbounded)
      ∨ (w.toNat / 2 ^ 160 % 2 ^ 48 ≠ 0
        ∧ (ofWord w).validUntil.toNat = w.toNat / 2 ^ 160 % 2 ^ 48) := by
  have hsecond := toNat_second w 160
  rw [← hsecond]
  by_cases hzero : (w.extractLsb' 160 48).setWidth 64 = (0 : BitVec 64)
  · refine .inl ⟨by rw [hzero]; rfl, ?_⟩
    exact if_pos hzero
  · refine .inr ⟨fun h => hzero (BitVec.eq_of_toNat_eq h), ?_⟩
    exact congrArg BitVec.toNat (if_neg hzero)

/-- **What is told of a word** is what its fields stand for. -/
theorem verdict_tells (w : Word) :
    (ofWord w).verdict.Tells (w.toNat / 2 ^ 208) (w.toNat / 2 ^ 160 % 2 ^ 48)
      (w.toNat % 2 ^ 160) := by
  have hauthorizer := toNat_authorizer w
  constructor
  case validAfter_eq => exact toNat_validAfter w
  case validUntil_eq =>
    rcases validUntil_cases w with ⟨hnone, hend⟩ | ⟨hsome, hend⟩
    · rw [if_pos hnone]
      exact congrArg BitVec.toNat hend
    · rw [if_neg hsome]
      exact hend
  case unbounded_iff =>
    rcases validUntil_cases w with ⟨hnone, hend⟩ | ⟨hsome, hend⟩
    · exact iff_of_true hend hnone
    · -- 48 bits are too few for the second that stands for no end
      have hlt : w.toNat / 2 ^ 160 % 2 ^ 48 < 2 ^ 48 := Nat.mod_lt _ (by omega)
      refine iff_of_false ?_ hsome
      intro hunbounded
      have htoNat : (ofWord w).validUntil.toNat = 2 ^ 64 - 1 := congrArg BitVec.toNat hunbounded
      omega
  case signatureValid_iff =>
    show (ofWord w).signatureValid = true ↔ _
    rw [signatureValid_iff, ← hauthorizer, ne_eq, ← BitVec.toNat_inj]
    rfl
  case aggregator_iff =>
    intro a
    show (ofWord w).aggregator = some a ↔ _
    rw [aggregator_eq_some_iff, ← hauthorizer, ← BitVec.toNat_inj, ne_eq, ne_eq,
      ← BitVec.toNat_inj, ← BitVec.toNat_inj]
    show _ ∧ ¬a.toNat = 1 ∧ ¬a.toNat = 0 ↔ _
    omega

/-- The fields of a word follow from what is told of it. -/
theorem fields_verdict (w : Word) :
    (ofWord w).verdict.validAfter.toNat = w.toNat / 2 ^ 208
      ∧ (ofWord w).verdict.lastField = w.toNat / 2 ^ 160 % 2 ^ 48
      ∧ (ofWord w).verdict.authorizerField = w.toNat % 2 ^ 160 := by
  have htells := verdict_tells w
  have hfits : w.toNat % 2 ^ 160 < 2 ^ 160 := Nat.mod_lt _ (by omega)
  exact ⟨htells.validAfter_eq, htells.lastField_eq, htells.authorizerField_eq hfits⟩

/-- And so does the word. -/
theorem toNat_eq_fieldsNumber (w : Word) :
    w.toNat = fieldsNumber (ofWord w).verdict.validAfter.toNat (ofWord w).verdict.lastField
      (ofWord w).verdict.authorizerField := by
  obtain ⟨hfirst, hlast, hauthorizer⟩ := fields_verdict w
  rw [hfirst, hlast, hauthorizer, fieldsNumber_fields]

/-- **Nothing of a validation word is lost.** For every word, what is told of it gives its three
fields, as the number and as the bytes that they make up; the first second has 48 bits, and so has
the last, unless there is none. For all fields that fit, what is told of the word made of them is
what they stand for. So no two words are told alike. -/
theorem verdict_determines_word :
    (∀ w : Word,
        w.toNat = fieldsNumber (ofWord w).verdict.validAfter.toNat (ofWord w).verdict.lastField
            (ofWord w).verdict.authorizerField
          ∧ w.bytes = fieldsBytes (ofWord w).verdict.validAfter.toNat (ofWord w).verdict.lastField
            (ofWord w).verdict.authorizerField
          ∧ (ofWord w).verdict.validAfter.toNat < 2 ^ 48
          ∧ ((ofWord w).verdict.validUntil.toNat = 2 ^ 64 - 1
            ∨ 1 ≤ (ofWord w).verdict.validUntil.toNat
              ∧ (ofWord w).verdict.validUntil.toNat < 2 ^ 48))
      ∧ (∀ first last authorizer : Nat, first < 2 ^ 48 → last < 2 ^ 48 → authorizer < 2 ^ 160 →
        (ofWord (.ofNat 256 (fieldsNumber first last authorizer))).verdict.Tells first last
          authorizer)
      ∧ Function.Injective fun w => (ofWord w).verdict := by
  refine ⟨?_, ?_, ?_⟩
  · intro w
    have hw := w.isLt
    obtain ⟨hfirst, hlast, hauthorizer⟩ := fields_verdict w
    have hrange := (verdict_tells w).validUntil_cases (Nat.mod_lt _ (by omega))
    refine ⟨toNat_eq_fieldsNumber w, ?_, ?_, hrange⟩
    · rw [hfirst, hlast, hauthorizer]
      exact bytes_eq_fieldsBytes w
    · rw [hfirst]
      omega
  · intro first last authorizer hfirst hlast hauthorizer
    obtain ⟨hlt, hfirst_eq, hlast_eq, hauthorizer_eq⟩ :=
      fields_fieldsNumber hfirst hlast hauthorizer
    have htells := verdict_tells (.ofNat 256 (fieldsNumber first last authorizer))
    rwa [BitVec.toNat_ofNat, Nat.mod_eq_of_lt hlt, hfirst_eq, hlast_eq, hauthorizer_eq] at htells
  · intro w w' h
    have hverdict : (ofWord w).verdict = (ofWord w').verdict := h
    apply BitVec.eq_of_toNat_eq
    rw [toNat_eq_fieldsNumber w, hverdict, ← toNat_eq_fieldsNumber w']

/-- A word with a time range and an aggregator, and one with a signature that is not valid and no
end. -/
theorem verdict_determines_word_mixed :
    (100 < 2 ^ 48 ∧ 200 < 2 ^ 48 ∧ 0xaa < 2 ^ 160
        ∧ (ofWord (.ofNat 256 (fieldsNumber 100 200 0xaa))).verdict.Tells 100 200 0xaa)
      ∧ 2 ^ 48 - 1 < 2 ^ 48 ∧ 0 < 2 ^ 48 ∧ 1 < 2 ^ 160
        ∧ (ofWord (.ofNat 256 (fieldsNumber (2 ^ 48 - 1) 0 1))).verdict.Tells (2 ^ 48 - 1) 0 1 := by
  obtain ⟨-, htells, -⟩ := verdict_determines_word
  refine ⟨⟨by omega, by omega, by omega, ?_⟩, by omega, by omega, by omega, ?_⟩
  · exact htells 100 200 0xaa (by omega) (by omega) (by omega)
  · exact htells (2 ^ 48 - 1) 0 1 (by omega) (by omega) (by omega)

end ValidationData

end SmartAccount
