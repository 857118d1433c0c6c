import SmartAccount.Abi.Type
/-!
# Contract values as people read them

The text in which events are reported: numbers in decimal, addresses and bytes in lower-case
hex, structs by name with their fields.
-/

namespace SmartAccount.Abi

/-- The text of a one-word value. -/
def WordTy.display : (t : WordTy) → t.Value → String
  | .address, a => a.text
  | .bool, b => if b then "true" else "false"
  | .uint _, n => Numeral.decimal n.toNat
  | .fixedBytes size, b => Hex.text (bytesOfBits size b)

/-- A named list of texts, as a struct is shown. -/
def displayStruct (name : String) (fields : List String) : String :=
  if fields.isEmpty then name
  else name ++ " \x7b " ++ ", ".intercalate fields ++ " \x7d"

mutual

/-- The text of a value. -/
def Ty.display : (t : Ty) → t.Value → String
  | .word t, v => t.display v
  | .bytes, v => Hex.text v
  | .array item, v => "[" ++ ", ".intercalate (v.map item.display) ++ "]"
  | .tuple name fields, v => displayStruct name (fields.display v)

/-- The texts of the fields of a struct, each after its name. -/
def Fields.display : (fields : Fields) → fields.Value → List String
  | .nil, _ => []
  | .cons name _ type rest, (a, as) => (name ++ ": " ++ type.display a) :: rest.display as

end

end SmartAccount.Abi
