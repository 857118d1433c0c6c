import SmartAccount.Json.Basic
import SmartAccount.Word
/-!
# Chain values in JSON

Amounts, addresses and bytes have one reading wherever JSON holds them. An amount is an unsigned
integer of 64 bits or a string with an integer literal; bytes are a hex string or a list of byte
numbers. Writing uses one form: quantities for amounts, lower-case hex for bytes.
-/

namespace SmartAccount.Json

/-- The value of a number that is written as an unsigned integer of at most 64 bits. -/
def unsigned? : Json → Option Nat
  | .number literal => do
    let n ← literal.toList.foldlM (fun n c => (Numeral.digit? 10 c).map (10 * n + ·)) 0
    (Numeral.fit? 64 n).map (·.toNat)
  | _ => none

/-- An amount of `width` bits. -/
def bits? (width : Nat) : Json → Option (BitVec width)
  | .str (some s) => Numeral.bounded? width s
  | j => j.unsigned? >>= Numeral.fit? width

/-- A number that is a byte. -/
def byte? (j : Json) : Option UInt8 := do
  let n ← j.unsigned?
  if n < 256 then some (UInt8.ofNat n) else none

/-- A byte string of any length. -/
def bytes? : Json → Option Bytes
  | .str (some s) => Hex.parse? s
  | .array items => items.mapM byte?
  | _ => none

/-- Whether a list of bytes may go on so when it has as many as are wanted: not at all, or with
one last value that is simple and no byte. -/
def isRemainder : List Json → Bool
  | [] => true
  | [.array _] => false
  | [.object _] => false
  | [.str s] => s.isSome
  | [j] => j.byte?.isNone
  | _ => false

/-- A byte string of one length. -/
def fixedBytes? (size : Nat) : Json → Option Bytes
  | .array items =>
    if isRemainder (items.drop size) then
      ((items.take size).mapM byte?).filter (·.length = size)
    else none
  | j => j.bytes?.filter (·.length = size)

def address? (j : Json) : Option Address := (j.fixedBytes? 20).map Address.ofBytes

def hash? (j : Json) : Option Hash := (j.fixedBytes? 32).map Word.ofBytes

/-- A string. -/
def string? : Json → Option String
  | .str s => s
  | _ => none

def bool? : Json → Option Bool
  | .bool b => some b
  | _ => none

def items? : Json → Option (List Json)
  | .array items => some items
  | _ => none

/-- A value that may be `null`. -/
def nullable? {α : Type} (read : Json → Option α) : Json → Option (Option α)
  | .null => some none
  | j => (read j).map some

/-- An amount in its written form. -/
def quantity {width : Nat} (n : BitVec width) : Json := .string (Numeral.quantity n.toNat)

/-- Bytes in their written form. -/
def hex (bytes : Bytes) : Json := .string (Hex.text bytes)

def address (a : Address) : Json := hex a.bytes

def word (w : Word) : Json := hex w.bytes

end SmartAccount.Json
