import SmartAccount.Word
/-!
# Contract types and their values

The types of the contract ABI that the account contracts use. A type determines the type of its
values: `Ty.Value` and `Fields.Value` are computed from the type, so a value always fits and the
codec has no case for one that does not. The fields of a struct and the parameters of a function
are the same thing, a list of named types.
-/

namespace SmartAccount.Abi

/-- A type whose values take one word. -/
inductive WordTy where
  | address
  | bool
  /-- Unsigned integers of a count of bits. -/
  | uint (bits : Nat)
  /-- Byte strings of a fixed length, at most 32. -/
  | fixedBytes (size : Nat)
  deriving DecidableEq, Repr

namespace WordTy

/-- The values of a one-word type. -/
@[reducible] def Value : WordTy → Type
  | .address => Address
  | .bool => Bool
  | .uint bits => BitVec bits
  | .fixedBytes size => BitVec (8 * size)

/-- The word of a value: numbers stand at its low end, byte strings at its high end. -/
def toWord : (t : WordTy) → t.Value → Word
  | .address, a => a.setWidth 256
  | .bool, b => if b then 1 else 0
  | .uint _, n => n.setWidth 256
  | .fixedBytes size, b => b.setWidth 256 <<< (256 - 8 * size)

/-- The value that a word holds. What the type does not use is dropped, and every word but
zero is true. -/
def ofWord : (t : WordTy) → Word → t.Value
  | .address, w => w.setWidth 160
  | .bool, w => w ≠ 0
  | .uint bits, w => w.setWidth bits
  | .fixedBytes size, w => (w >>> (256 - 8 * size)).setWidth (8 * size)

/-- Whether a word is the word of its value, so that reading drops nothing. -/
def isClean (t : WordTy) (w : Word) : Bool := t.toWord (t.ofWord w) = w

/-- The bytes of a value without the filling of its word. -/
def packed : (t : WordTy) → t.Value → Bytes
  | .address, a => a.bytes
  | .bool, b => [if b then 1 else 0]
  | .uint bits, n => BigEndian.encode (bits / 8) n.toNat
  | .fixedBytes size, b => bytesOfBits size b

/-- The name of the type in signatures. -/
def name : WordTy → String
  | .address => "address"
  | .bool => "bool"
  | .uint bits => "uint" ++ Numeral.decimal bits
  | .fixedBytes size => "bytes" ++ Numeral.decimal size

end WordTy

mutual

/-- A type of the ABI. -/
inductive Ty where
  | word (t : WordTy)
  /-- Byte strings of any length. -/
  | bytes
  /-- Lists of any length. -/
  | array (item : Ty)
  /-- A named struct. -/
  | tuple (name : String) (fields : Fields)
  deriving DecidableEq, Repr

/-- The fields of a struct or the parameters of a function, in order. Beside its name and its
type, a field keeps the type that the contract declares for it. -/
inductive Fields where
  | nil
  | cons (name declared : String) (type : Ty) (rest : Fields)
  deriving DecidableEq, Repr

end

mutual

/-- The values of a type. -/
@[reducible] def Ty.Value : Ty → Type
  | .word t => t.Value
  | .bytes => Bytes
  | .array item => List item.Value
  | .tuple _ fields => fields.Value

/-- The values of a list of fields: a tuple that ends in the unit. -/
@[reducible] def Fields.Value : Fields → Type
  | .nil => Unit
  | .cons _ _ type rest => type.Value × rest.Value

end

namespace Ty

def address : Ty := .word .address
def bool : Ty := .word .bool
def uint256 : Ty := .word (.uint 256)
def uint64 : Ty := .word (.uint 64)
def uint32 : Ty := .word (.uint 32)
def bytes32 : Ty := .word (.fixedBytes 32)
def bytes4 : Ty := .word (.fixedBytes 4)

/-- How a contract declares the type, where it uses no alias. -/
def declared : Ty → String
  | .word t => t.name
  | .bytes => "bytes"
  | .array item => item.declared ++ "[]"
  | .tuple name _ => "struct " ++ name

/-- The name of the type in an ABI document, where the fields of a struct stand apart. -/
def documentName : Ty → String
  | .word t => t.name
  | .bytes => "bytes"
  | .array item => item.documentName ++ "[]"
  | .tuple _ _ => "tuple"

/-- The fields of the struct that the type is, or is an array of. -/
def components : Ty → Fields
  | .tuple _ fields => fields
  | .array item => item.components
  | _ => .nil

end Ty

mutual

/-- The name of the type in signatures. -/
def Ty.name : Ty → String
  | .word t => t.name
  | .bytes => "bytes"
  | .array item => item.name ++ "[]"
  | .tuple _ fields => "(" ++ fields.names true ++ ")"

/-- The names of the types of the fields, each but the first after a comma. -/
def Fields.names (first : Bool) : Fields → String
  | .nil => ""
  | .cons _ _ type rest => (if first then "" else ",") ++ type.name ++ rest.names false

end

mutual

/-- Whether a value of the type is reached through an offset. -/
def Ty.isDynamic : Ty → Bool
  | .word _ => false
  | .bytes => true
  | .array _ => true
  | .tuple _ fields => fields.isDynamic

def Fields.isDynamic : Fields → Bool
  | .nil => false
  | .cons _ _ type rest => type.isDynamic || rest.isDynamic

end

mutual

/-- How many bytes of a value stand in place. -/
def Ty.headSize : Ty → Nat
  | .tuple _ fields => if fields.isDynamic then 32 else fields.headSize
  | _ => 32

/-- How many bytes of a list of values stand in place. -/
def Fields.headSize : Fields → Nat
  | .nil => 0
  | .cons _ _ type rest => type.headSize + rest.headSize

end

namespace Fields

/-- The names of the fields with their types. -/
def toList : Fields → List (String × Ty)
  | .nil => []
  | .cons name _ type rest => (name, type) :: rest.toList

/-- Fields that are declared with their own types. -/
def ofList : List (String × Ty) → Fields
  | [] => .nil
  | (name, type) :: rest => .cons name type.declared type (ofList rest)

/-- The types of the fields between parentheses, as in a signature. -/
def signature (fields : Fields) : String := "(" ++ fields.names true ++ ")"

end Fields

end SmartAccount.Abi
