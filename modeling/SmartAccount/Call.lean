import SmartAccount.Json.Reader
import SmartAccount.Json.Scalar
import SmartAccount.Json.Record
/-!
# Calls

A call is what an account executes: a target, an amount of wei and data. Its text is
`target:value:data`, of which the last two parts may be left out; its JSON form is an object of
the three fields.
-/

namespace SmartAccount

/-- A call that an account makes. -/
structure Call where
  /-- The address that is called. -/
  target : Address
  /-- The wei that are sent along. -/
  value : Word
  /-- The call data. -/
  data : Bytes
  deriving DecidableEq, Repr

namespace Call

/-- The call of nothing: the zero address, no wei, no data. -/
def empty : Call := ⟨0, 0, []⟩

/-- Why a text is no call. Each cause holds the part that is at fault. -/
inductive ParseError where
  | target (part : String)
  | value (part : String)
  | data (part : String)
  | format (text : String)
  deriving DecidableEq, Repr

def ParseError.message : ParseError → String
  | .target part => "invalid call target: " ++ part
  | .value part => "invalid call value: " ++ part
  | .data part => "invalid call data: " ++ part
  | .format text => "expected target[:value[:data]], got " ++ text

/-- The parts of a text between its colons; there is always at least one. -/
def segments : List Char → List (List Char)
  | [] => [[]]
  | c :: rest =>
    match segments rest with
    | [] => [[c]]
    | part :: parts => if c = ':' then [] :: part :: parts else (c :: part) :: parts

/-- The value part: nothing, or an integer literal. -/
def valueOf? (part : String) : Option Word :=
  if part.isEmpty then some 0 else Numeral.bounded? 256 part

/-- The data part: nothing, or hex digits. -/
def dataOf? (part : String) : Option Bytes :=
  if part.isEmpty then some [] else Hex.parse? part

/-- A call from its three parts, checked from left to right. -/
def ofParts (target value data : String) : Except ParseError Call :=
  match Address.parse? target with
  | none => .error (.target target)
  | some t =>
    match valueOf? value with
    | none => .error (.value value)
    | some v =>
      match dataOf? data with
      | none => .error (.data data)
      | some d => .ok ⟨t, v, d⟩

/-- A call from its text. The count of parts is checked before any part is read. -/
def parse (text : String) : Except ParseError Call :=
  match (segments text.toList).map String.ofList with
  | [target] => ofParts target "" ""
  | [target, value] => ofParts target value ""
  | [target, value, data] => ofParts target value data
  | _ => .error (.format text)

/-- The text of a call: checksummed target, decimal value, hex data. -/
def text (c : Call) : String :=
  c.target.checksummed ++ ":" ++ Numeral.decimal c.value.toNat ++ ":" ++ Hex.text c.data

/-- The keys of the JSON form, in the order they are written. -/
def fieldNames : List String := ["target", "value", "data"]

def toJson (c : Call) : Json :=
  .record [("target", .address c.target), ("value", .quantity c.value), ("data", .hex c.data)]

/-- A call from its JSON form: an object, or an array of the three fields. -/
def ofJson? (j : Json) : Option Call := do
  match ← j.record? fieldNames with
  | [target, value, data] =>
    let target ← Json.required? Json.address? target
    let value ← Json.required? (Json.bits? 256) value
    let data ← Json.required? Json.bytes? data
    some ⟨target, value, data⟩
  | _ => none

/-- A call from JSON text. -/
def ofJsonText? (text : String) : Option Call := (Json.parse? text).bind ofJson?

end Call

end SmartAccount
