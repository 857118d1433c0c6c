import SmartAccount.BigEndian
import SmartAccount.Numeral
/-!
# Bytes in text

Bytes are written as pairs of lower-case hex digits after `0x`. On reading, the marker may be
missing and the digits may have either case; a lone digit is refused. `decode?_encode` says
that what is written reads back.
-/

namespace SmartAccount.Hex

/-- The two digits of each byte, in lower case. -/
def encode (bytes : Bytes) : List Char :=
  bytes.flatMap fun b => [Nat.digitChar (b.toNat / 16), Nat.digitChar (b.toNat % 16)]

/-- The bytes that pairs of digits write. -/
def decode? : List Char → Option Bytes
  | [] => some []
  | [_] => none
  | high :: low :: rest => do
    let h ← Numeral.digit? 16 high
    let l ← Numeral.digit? 16 low
    let bytes ← decode? rest
    some (UInt8.ofNat (16 * h + l) :: bytes)

/-- The digits without the marker that may stand in front of them. -/
def unmarked : List Char → List Char
  | '0' :: 'x' :: rest => rest
  | '0' :: 'X' :: rest => rest
  | text => text

/-- The text of a byte string: the marker and the digits. -/
def text (bytes : Bytes) : String := String.ofList ('0' :: 'x' :: encode bytes)

/-- Bytes from text with or without the marker. -/
def parse? (s : String) : Option Bytes := decode? (unmarked s.toList)

/-- As `parse?`, for byte strings of one length only. -/
def parseFixed? (size : Nat) (s : String) : Option Bytes :=
  (parse? s).filter (·.length = size)

/-- The two digits of a byte read back as the byte. -/
theorem digits_byte (b : UInt8) :
    Numeral.digit? 16 (Nat.digitChar (b.toNat / 16)) = some (b.toNat / 16) ∧
    Numeral.digit? 16 (Nat.digitChar (b.toNat % 16)) = some (b.toNat % 16) := by
  have digit : ∀ n < 16, Numeral.digit? 16 (Nat.digitChar n) = some n := by decide
  have hb : b.toNat < 256 := b.toNat_lt
  exact ⟨digit _ (by omega), digit _ (by omega)⟩

theorem decode?_encode (bytes : Bytes) : decode? (encode bytes) = some bytes := by
  induction bytes with
  | nil => rfl
  | cons b rest ih =>
    have hb := digits_byte b
    have hjoin : UInt8.ofNat (16 * (b.toNat / 16) + b.toNat % 16) = b := by
      rw [Nat.div_add_mod]; simp
    have hcons : encode (b :: rest)
        = Nat.digitChar (b.toNat / 16) :: Nat.digitChar (b.toNat % 16) :: encode rest := rfl
    rw [hcons, decode?, hb.1, hb.2, ih]
    show some (UInt8.ofNat (16 * (b.toNat / 16) + b.toNat % 16) :: rest) = _
    rw [hjoin]

/-- The text of a byte string reads back as the byte string. -/
theorem parse?_text (bytes : Bytes) : parse? (text bytes) = some bytes := by
  simp [parse?, text, unmarked, decode?_encode]

end SmartAccount.Hex
