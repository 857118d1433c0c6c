import SmartAccount.Proofs.Numeral.Grammar
import SmartAccount.Proofs.WordBytes
/-!
# The grammar of bytes in text

A text writes a byte string if it consists of the two digits of each byte, in either case, and it
may have a mark in front (`Hex.Writes`). The reader accepts exactly these texts
(`Hex.parse?_eq_some_iff`). Which digits they are does not matter for that, only how many: there are
bytes that a row of digits writes if and only if it is even (`Hex.exists_writes_iff`).

An address is written by the digits of its bytes (`Address.parse?_eq_some_iff`). Its capitals are a
checksum for those who look at it and nothing to the reader, who takes each digit in either case
(`Address.writes_checksummed`).
-/

namespace SmartAccount

open Numeral (IsDigit digit?_eq_some_iff exists_isDigit)

namespace Hex

/-! ## Rows of digits -/

/-- The two digits of each byte, as numbers. -/
def nibbles (bytes : Bytes) : List Nat := bytes.flatMap fun b => [b.toNat / 16, b.toNat % 16]

theorem nibbles_cons (b : UInt8) (bytes : Bytes) :
    nibbles (b :: bytes) = b.toNat / 16 :: b.toNat % 16 :: nibbles bytes := rfl

theorem nibbles_lt {bytes : Bytes} {d : Nat} (h : d ∈ nibbles bytes) : d < 16 := by
  obtain ⟨b, -, hd⟩ := List.mem_flatMap.mp h
  have hb : b.toNat < 256 := b.toNat_lt
  rcases List.mem_pair.mp hd with rfl | rfl
  · omega
  · omega

theorem encode_eq_map (bytes : Bytes) : encode bytes = (nibbles bytes).map Nat.digitChar := by
  rw [nibbles, List.map_flatMap]
  rfl

theorem length_encode (bytes : Bytes) : (encode bytes).length = 2 * bytes.length := by
  induction bytes with
  | nil => rfl
  | cons b bytes ih =>
    show (encode bytes).length + 1 + 1 = 2 * (bytes.length + 1)
    rw [ih]
    omega

/-- Two digits and the byte that they write. -/
theorem ofNat_eq_iff {high low : Nat} (hhigh : high < 16) (hlow : low < 16) {b : UInt8} :
    UInt8.ofNat (16 * high + low) = b ↔ high = b.toNat / 16 ∧ low = b.toNat % 16 := by
  have hb : b.toNat < 256 := b.toNat_lt
  have hbyte : (UInt8.ofNat (16 * high + low)).toNat = 16 * high + low :=
    UInt8.toNat_ofNat_of_lt' (show 16 * high + low < 256 by omega)
  rw [← UInt8.toNat_inj, hbyte]
  omega

theorem decode?_eq_some_iff {digits : List Char} {bytes : Bytes} :
    decode? digits = some bytes ↔ List.Forall₂ (IsDigit 16) digits (nibbles bytes) := by
  -- the reader takes two digits at a time, and each byte has two
  induction digits using decode?.induct generalizing bytes with
  | case1 =>
    cases bytes with
    | nil => exact iff_of_true rfl .nil
    | cons b bytes => exact iff_of_false nofun nofun
  | case2 c =>
    cases bytes with
    | nil => exact iff_of_false nofun nofun
    | cons b bytes => exact iff_of_false nofun fun h => by cases h with | cons _ h => cases h
  | case3 high low rest ih =>
    cases bytes with
    | nil =>
      refine iff_of_false (fun h => ?_) nofun
      obtain ⟨_, -, h⟩ := Option.bind_eq_some_iff.mp h
      obtain ⟨_, -, h⟩ := Option.bind_eq_some_iff.mp h
      obtain ⟨_, -, h⟩ := Option.bind_eq_some_iff.mp h
      cases h
    | cons b bytes =>
      rw [nibbles_cons, List.forall₂_cons, List.forall₂_cons, ← ih]
      constructor
      · intro h
        obtain ⟨h, hhigh, hrest⟩ := Option.bind_eq_some_iff.mp h
        obtain ⟨l, hlow, hrest⟩ := Option.bind_eq_some_iff.mp hrest
        obtain ⟨more, hmore, hbytes⟩ := Option.bind_eq_some_iff.mp hrest
        obtain ⟨hbyte, rfl⟩ := List.cons.inj (Option.some.inj hbytes)
        rw [digit?_eq_some_iff (by omega)] at hhigh hlow
        obtain ⟨rfl, rfl⟩ := (ofNat_eq_iff hhigh.1 hlow.1).mp hbyte
        exact ⟨hhigh, hlow, hmore⟩
      · rintro ⟨hhigh, hlow, hmore⟩
        have hbyte := (ofNat_eq_iff hhigh.1 hlow.1).mpr ⟨rfl, rfl⟩
        rw [← digit?_eq_some_iff (by omega)] at hhigh hlow
        rw [decode?, hhigh, hlow, hmore]
        show some (UInt8.ofNat (16 * (b.toNat / 16) + b.toNat % 16) :: bytes) = _
        rw [hbyte]

/-- Every even row of digits writes some bytes. -/
theorem exists_nibbles (size : Nat) {digits : List Char} (hlength : digits.length = 2 * size)
    (hdigits : ∀ c ∈ digits, ∃ d, IsDigit 16 c d) :
    ∃ bytes : Bytes, bytes.length = size ∧ List.Forall₂ (IsDigit 16) digits (nibbles bytes) := by
  induction size generalizing digits with
  | zero =>
    obtain rfl := List.length_eq_zero_iff.mp hlength
    exact ⟨[], rfl, .nil⟩
  | succ size ih =>
    match digits, hlength with
    | high :: low :: rest, hlength =>
      obtain ⟨h, hhigh⟩ := hdigits high List.mem_cons_self
      obtain ⟨l, hlow⟩ := hdigits low (List.mem_cons_of_mem _ List.mem_cons_self)
      have hshorter : rest.length = 2 * size := by simpa [Nat.mul_succ] using hlength
      obtain ⟨bytes, rfl, hrest⟩ := ih hshorter fun c hc =>
        hdigits c (List.mem_cons_of_mem _ (List.mem_cons_of_mem _ hc))
      obtain ⟨hbyteHigh, hbyteLow⟩ := (ofNat_eq_iff hhigh.1 hlow.1).mp rfl
      refine ⟨UInt8.ofNat (16 * h + l) :: bytes, rfl, ?_⟩
      rw [nibbles_cons, ← hbyteHigh, ← hbyteLow]
      exact .cons hhigh (.cons hlow hrest)

/-! ## Texts -/

/-- The text is a row of digits, behind a mark or not. -/
def Marked (text : String) (digits : List Char) : Prop :=
  text.toList = digits ∨ text.toList = '0' :: 'x' :: digits ∨ text.toList = '0' :: 'X' :: digits

/-- The text writes the bytes. -/
def Writes (text : String) (bytes : Bytes) : Prop :=
  ∃ digits, Marked text digits ∧ List.Forall₂ (IsDigit 16) digits (nibbles bytes)

/-- The text is a row of so many hex digits, behind a mark or not. -/
def HasDigits (text : String) (count : Nat) : Prop :=
  ∃ digits, Marked text digits ∧ digits.length = count ∧ ∀ c ∈ digits, ∃ d, IsDigit 16 c d

/-- Digits are not taken for a mark. -/
theorem unmarked_of_digits {digits : List Char} {ds : List Nat}
    (h : List.Forall₂ (IsDigit 16) digits ds) : unmarked digits = digits := by
  unfold unmarked
  split
  · cases h with
    | cons _ h =>
      cases h with
      | cons hx _ => exact absurd rfl (hx.ne (by omega)).2.2.1
  · cases h with
    | cons _ h =>
      cases h with
      | cons hx _ => exact absurd rfl (hx.ne (by omega)).2.2.2
  · rfl

theorem parse?_eq_some_iff {text : String} {bytes : Bytes} :
    parse? text = some bytes ↔ Writes text bytes := by
  constructor
  · intro h
    refine ⟨unmarked text.toList, ?_, decode?_eq_some_iff.mp h⟩
    unfold Marked unmarked
    split
    · next heq => exact .inr (.inl heq)
    · next heq => exact .inr (.inr heq)
    · exact .inl rfl
  · rintro ⟨digits, hmarked, hdigits⟩
    have hdecode := decode?_eq_some_iff.mpr hdigits
    rcases hmarked with h | h | h
    · rw [parse?, h, unmarked_of_digits hdigits, hdecode]
    · rw [parse?, h]
      exact hdecode
    · rw [parse?, h]
      exact hdecode

/-- There are bytes that a text writes if it has twice as many digits. -/
theorem exists_writes_iff {text : String} {size : Nat} :
    (∃ bytes : Bytes, bytes.length = size ∧ Writes text bytes) ↔ HasDigits text (2 * size) := by
  constructor
  · rintro ⟨bytes, rfl, digits, hmarked, hdigits⟩
    have hlength : digits.length = 2 * bytes.length := by
      rw [hdigits.length_eq, ← length_encode, encode_eq_map, List.length_map]
    exact ⟨digits, hmarked, hlength, fun c hc => exists_isDigit hdigits hc⟩
  · rintro ⟨digits, hmarked, hlength, hdigits⟩
    obtain ⟨bytes, hsize, hwrites⟩ := exists_nibbles size hlength hdigits
    exact ⟨bytes, hsize, digits, hmarked, hwrites⟩

end Hex

/-! ## Addresses -/

namespace Address

theorem parse?_eq_some_iff {text : String} {a : Address} :
    parse? text = some a ↔ Hex.Writes text a.bytes := by
  rw [← Hex.parse?_eq_some_iff, parse?, Hex.parseFixed?, Option.map_eq_some_iff]
  constructor
  · rintro ⟨bytes, hbytes, rfl⟩
    obtain ⟨hparse, hlength⟩ := Option.filter_eq_some_iff.mp hbytes
    rw [bytes_ofBytes (of_decide_eq_true hlength), hparse]
  · intro h
    refine ⟨a.bytes, ?_, ofBytes_bytes a⟩
    rw [h]
    exact Option.filter_eq_some_iff.mpr ⟨rfl, decide_eq_true a.length_bytes⟩

/-- There is an address that a text writes if it has forty digits. -/
theorem exists_writes_iff {text : String} :
    (∃ a : Address, Hex.Writes text a.bytes) ↔ Hex.HasDigits text 40 := by
  rw [show 40 = 2 * 20 from rfl, ← Hex.exists_writes_iff]
  constructor
  · rintro ⟨a, h⟩
    exact ⟨a.bytes, a.length_bytes, h⟩
  · rintro ⟨bytes, hlength, h⟩
    refine ⟨ofBytes bytes, ?_⟩
    rwa [bytes_ofBytes hlength]

/-- Digits of which some are written as capitals are the digits that they were. -/
theorem forall₂_capitals {ds : List Nat} (hds : ∀ d ∈ ds, d < 16) {digest : List Char}
    (hlength : ds.length ≤ digest.length) :
    List.Forall₂ (IsDigit 16)
      (List.zipWith (fun c d => if '8' ≤ d then c.toUpper else c) (ds.map Nat.digitChar) digest)
      ds := by
  induction ds generalizing digest with
  | nil => exact .nil
  | cons d ds ih =>
    match digest, hlength with
    | mark :: digest, hlength =>
      refine .cons ⟨hds d List.mem_cons_self, ?_⟩
        (ih (fun d hd => hds d (List.mem_cons_of_mem _ hd)) (Nat.le_of_succ_le_succ hlength))
      by_cases hcapital : '8' ≤ mark
      · exact .inr (if_pos hcapital)
      · exact .inl (if_neg hcapital)

/-- The checksummed text writes the address, whatever its capitals are. -/
theorem writes_checksummed (a : Address) : Hex.Writes a.checksummed a.bytes := by
  refine ⟨_, .inr (.inl (String.toList_ofList)), ?_⟩
  rw [Hex.encode_eq_map]
  refine forall₂_capitals (fun d hd => Hex.nibbles_lt hd) ?_
  -- forty digits, and sixty-four of the digest
  rw [Hex.length_encode, Keccak.length_hash, ← List.length_map, ← Hex.encode_eq_map,
    Hex.length_encode, a.length_bytes]
  decide

end Address

end SmartAccount
