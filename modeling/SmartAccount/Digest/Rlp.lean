import SmartAccount.BigEndian
/-!
# Nested byte strings as bytes

The form in which transactions are signed and sent: a byte string or a list of items, each
behind its length. A single small byte stands for itself; a number is written with as few bytes
as will do.
-/

namespace SmartAccount

/-- A byte string, or a list of items. -/
inductive Rlp where
  | bytes (value : Bytes)
  | list (items : List Rlp)

namespace Rlp

/-- The bytes of a number without leading zeros; none for zero. -/
def minimal (n : Nat) : Bytes := (BigEndian.encode 32 n).dropWhile (· = 0)

/-- A number below `2 ^ 256` as an item. -/
def nat (n : Nat) : Rlp := .bytes (minimal n)

/-- What stands in front of a content of a given length: one byte, and the length itself if it is
more than 55. -/
def lead (offset : Nat) (length : Nat) : Bytes :=
  if length ≤ 55 then [UInt8.ofNat (offset + length)]
  else
    let digits := minimal length
    UInt8.ofNat (offset + 55 + digits.length) :: digits

/-- A byte string behind its length. -/
def encodeBytes (value : Bytes) : Bytes :=
  match value with
  | [b] => if b < 0x80 then [b] else lead 0x80 1 ++ [b]
  | _ => lead 0x80 value.length ++ value

mutual

/-- The bytes of an item. -/
def encode : Rlp → Bytes
  | .bytes value => encodeBytes value
  | .list items =>
    let content := encodeAll items
    lead 0xc0 content.length ++ content

/-- The bytes of several items, one after the other. -/
def encodeAll : List Rlp → Bytes
  | [] => []
  | item :: rest => encode item ++ encodeAll rest

end

end Rlp

end SmartAccount
