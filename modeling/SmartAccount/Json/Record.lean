import SmartAccount.Json.Basic
/-!
# Records in JSON

A record with named fields is an object or an array. In an object the members may come in any
order and unknown members are ignored, but every key must stand for a string and a known one may
stand only once; in an array the fields stand in their declared order. Reading a record gives for
each declared field its value, if it has one; what a missing value means is for the field to say.
-/

namespace SmartAccount.Json

/-- The members of an object whose keys all stand for strings. -/
def named? : Json → Option (List (String × Json))
  | .object members => members.mapM fun (key, value) => key.map (·, value)
  | _ => none

/-- The values that the members give under one key. -/
def valuesOf (key : String) (members : List (String × Json)) : List Json :=
  (members.filter (·.1 = key)).map (·.2)

/-- The value under a key that may stand once: an error (`none`) when it is repeated. -/
def single? (members : List (String × Json)) (key : String) : Option (Option Json) :=
  match valuesOf key members with
  | [] => some none
  | [value] => some (some value)
  | _ => none

/-- The values of an array for as many fields, missing at the end. Left-over items are an
error. -/
def positional? : (fields : List String) → List Json → Option (List (Option Json))
  | [], [] => some []
  | [], _ :: _ => none
  | _ :: fields, [] => (positional? fields []).map (none :: ·)
  | _ :: fields, item :: rest => (positional? fields rest).map (some item :: ·)

/-- The value of each field of a record, in the order of the fields. -/
def record? (fields : List String) : Json → Option (List (Option Json))
  | .array items => positional? fields items
  | j => do fields.mapM (single? (← j.named?))

/-- The values of the fields of a record that must be written as an object. -/
def members? (fields : List String) (j : Json) : Option (List (Option Json)) := do
  fields.mapM (single? (← j.named?))

/-- A field that must be there. -/
def required? {α : Type} (read : Json → Option α) (value : Option Json) : Option α :=
  value.bind read

/-- A field with a value of its own for when it is missing. -/
def defaulted? {α : Type} (missing : α) (read : Json → Option α) : Option Json → Option α
  | none => some missing
  | some j => read j

end SmartAccount.Json
