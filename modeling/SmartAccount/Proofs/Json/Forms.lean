import SmartAccount.Call
import SmartAccount.Proofs.Json.Text
import SmartAccount.Proofs.Numeral
import SmartAccount.Proofs.WordBytes
import SmartAccount.UserOperation.Json
/-!
# JSON forms read back

What a user operation or a call is written as in JSON is read as the same operation or call
(`json_round_trip`), whichever printer wrote the text. Text and values are apart: the text reads
back as the value that was printed, so what is left is that the fields are found in the value and
that each of them reads back.

The fields are found by one argument for both records. A record is written field by field, where a
field that is absent has no member (`presentMembers`); as long as no two fields have the same name,
looking up each name gives back what was there (`record?_presentMembers`).
-/

namespace SmartAccount

namespace Json

/-! ## Fields -/

theorem bits?_quantity {width : Nat} (n : BitVec width) : bits? width (quantity n) = some n :=
  Numeral.bounded?_quantity n

theorem bytes?_hex (bytes : Bytes) : bytes? (hex bytes) = some bytes := Hex.parse?_text bytes

theorem address?_address (a : Address) : address? (address a) = some a := by
  have hbytes : fixedBytes? 20 (address a) = some a.bytes := by
    show (bytes? (hex a.bytes)).filter (·.length = 20) = some a.bytes
    rw [bytes?_hex]
    simp only [Option.filter_some, Address.length_bytes, decide_true, if_true]
  rw [address?, hbytes, Option.map_some, Address.ofBytes_bytes]

/-- An address that may be absent is read back from its member or from there being none. -/
theorem defaulted?_address (a : Option Address) :
    defaulted? none (nullable? address?) (a.map address) = some a := by
  cases a with
  | none => rfl
  | some a =>
    show (address? (address a)).map some = some (some a)
    rw [address?_address, Option.map_some]

theorem required?_some {α : Type} (read : Json → Option α) (j : Json) :
    required? read (some j) = read j := rfl

theorem defaulted?_some {α : Type} (missing : α) (read : Json → Option α) (j : Json) :
    defaulted? missing read (some j) = read j := rfl

/-! ## Records -/

/-- The members of the fields that have a value. -/
def presentMembers : List (String × Option Json) → List (String × Json)
  | [] => []
  | (_, none) :: fields => presentMembers fields
  | (key, some value) :: fields => (key, value) :: presentMembers fields

theorem valuesOf_cons (key other : String) (value : Json) (members : List (String × Json)) :
    valuesOf key ((other, value) :: members)
      = if other = key then value :: valuesOf key members else valuesOf key members := by
  unfold valuesOf
  rw [List.filter_cons]
  by_cases h : other = key
  · rw [if_pos h, if_pos (decide_eq_true h), List.map_cons]
  · rw [if_neg h, if_neg (by rwa [decide_eq_true_eq])]

theorem valuesOf_presentMembers_of_not_mem {key : String} {fields : List (String × Option Json)}
    (h : key ∉ fields.map (·.1)) : valuesOf key (presentMembers fields) = [] := by
  induction fields with
  | nil => rfl
  | cons field fields ih =>
    rw [List.map_cons, List.mem_cons, not_or] at h
    match field with
    | (_, none) => exact ih h.2
    | (other, some value) =>
      rw [presentMembers, valuesOf_cons, if_neg fun heq => h.1 heq.symm]
      exact ih h.2

/-- The values under the name of a field are its own value, if it has one. -/
theorem valuesOf_presentMembers {key : String} {value : Option Json}
    {fields : List (String × Option Json)} (hnodup : (fields.map (·.1)).Nodup)
    (h : (key, value) ∈ fields) : valuesOf key (presentMembers fields) = value.toList := by
  induction fields with
  | nil => cases h
  | cons field fields ih =>
    rw [List.map_cons, List.nodup_cons] at hnodup
    rcases List.mem_cons.mp h with rfl | hmem
    · -- the field itself: no further one has its name
      have hrest := valuesOf_presentMembers_of_not_mem hnodup.1
      cases value with
      | none => exact hrest
      | some value =>
        rw [presentMembers, valuesOf_cons, if_pos rfl, hrest]
        rfl
    · match field with
      | (_, none) => exact ih hnodup.2 hmem
      | (other, some _) =>
        have hother : other ≠ key := by
          rintro rfl
          exact hnodup.1 (List.mem_map.mpr ⟨_, hmem, rfl⟩)
        rw [presentMembers, valuesOf_cons, if_neg hother]
        exact ih hnodup.2 hmem

theorem named?_record (members : List (String × Json)) :
    (record members).named? = some members := by
  show (members.map fun member => (some member.1, member.2)).mapM
    (fun member => member.1.map (·, member.2)) = some members
  induction members with
  | nil => rfl
  | cons member members ih =>
    rw [List.map_cons, List.mapM_cons, ih]
    rfl

/-- Each field of a record is read as it was written. -/
theorem record?_presentMembers (fields : List (String × Option Json))
    (hnodup : (fields.map (·.1)).Nodup) :
    (record (presentMembers fields)).record? (fields.map (·.1)) = some (fields.map (·.2)) := by
  have hsingle : ∀ field ∈ fields, single? (presentMembers fields) field.1 = some field.2 := by
    intro field hmem
    unfold single?
    rw [valuesOf_presentMembers hnodup hmem]
    cases field.2 <;> rfl
  have hall (part : List (String × Option Json)) (hpart : ∀ field ∈ part, field ∈ fields) :
      (part.map (·.1)).mapM (single? (presentMembers fields)) = some (part.map (·.2)) := by
    induction part with
    | nil => rfl
    | cons field part ih =>
      have hhead := hsingle field (hpart field List.mem_cons_self)
      have htail := ih fun other hother => hpart other (List.mem_cons_of_mem _ hother)
      rw [List.map_cons, List.mapM_cons, hhead, htail]
      rfl
  show (record (presentMembers fields)).named? >>= (fun members =>
    (fields.map (·.1)).mapM (single? members)) = some (fields.map (·.2))
  rw [named?_record]
  exact hall fields fun _ h => h

end Json

/-! ## The two records -/

namespace Call

/-- The fields of a call by name. -/
def jsonFields (c : Call) : List (String × Option Json) :=
  [("target", some (.address c.target)), ("value", some (.quantity c.value)),
    ("data", some (.hex c.data))]

theorem record?_toJson (c : Call) :
    c.toJson.record? fieldNames = some (c.jsonFields.map (·.2)) := by
  have hnodup : fieldNames.Nodup := by decide
  exact Json.record?_presentMembers c.jsonFields hnodup

theorem ofJson?_toJson (c : Call) : ofJson? c.toJson = some c := by
  unfold ofJson?
  rw [record?_toJson]
  simp only [jsonFields, List.map_cons, List.map_nil, Json.required?_some, Json.address?_address,
    Json.bits?_quantity, Json.bytes?_hex, bind, Option.bind]

theorem isWritable_toJson (c : Call) : c.toJson.isWritable = true := rfl

end Call

namespace UserOperation

/-- The fields of an operation by name, absent addresses without a value. -/
def jsonFields (op : UserOperation) : List (String × Option Json) :=
  [("sender", some (.address op.sender)), ("nonce", some (.quantity op.nonce)),
    ("factory", op.factory.map .address), ("factoryData", some (.hex op.factoryData)),
    ("callData", some (.hex op.callData)), ("callGasLimit", some (.quantity op.callGasLimit)),
    ("verificationGasLimit", some (.quantity op.verificationGasLimit)),
    ("preVerificationGas", some (.quantity op.preVerificationGas)),
    ("maxPriorityFeePerGas", some (.quantity op.maxPriorityFeePerGas)),
    ("maxFeePerGas", some (.quantity op.maxFeePerGas)),
    ("paymaster", op.paymaster.map .address),
    ("paymasterVerificationGasLimit", some (.quantity op.paymasterVerificationGasLimit)),
    ("paymasterPostOpGasLimit", some (.quantity op.paymasterPostOpGasLimit)),
    ("paymasterData", some (.hex op.paymasterData)), ("signature", some (.hex op.signature))]

theorem toJson_eq (op : UserOperation) :
    op.toJson = .record (Json.presentMembers op.jsonFields) := by
  unfold toJson jsonFields
  cases op.factory <;> cases op.paymaster <;> rfl

theorem record?_toJson (op : UserOperation) :
    op.toJson.record? fieldNames = some (op.jsonFields.map (·.2)) := by
  have hnodup : fieldNames.Nodup := by decide
  rw [toJson_eq]
  exact Json.record?_presentMembers op.jsonFields hnodup

theorem ofJson?_toJson (op : UserOperation) : ofJson? op.toJson = some op := by
  unfold ofJson?
  rw [record?_toJson]
  simp only [jsonFields, List.map_cons, List.map_nil, Json.required?_some, Json.defaulted?_some,
    Json.defaulted?_address, Json.address?_address, Json.bits?_quantity, Json.bytes?_hex, bind,
    Option.bind]

theorem isWritable_toJson (op : UserOperation) : op.toJson.isWritable = true := by
  unfold toJson
  cases op.factory <;> cases op.paymaster <;> rfl

end UserOperation

/-- For every operation and every call: the JSON text that it is written as is read as the same
operation, respectively the same call, be the text compact or over several lines. -/
theorem json_round_trip :
    (∀ op : UserOperation, UserOperation.ofJsonText? op.toJson.compact = some op
      ∧ UserOperation.ofJsonText? op.toJson.pretty = some op)
    ∧ ∀ c : Call, Call.ofJsonText? c.toJson.compact = some c
      ∧ Call.ofJsonText? c.toJson.pretty = some c := by
  refine ⟨fun op => ⟨?_, ?_⟩, fun c => ⟨?_, ?_⟩⟩
  · rw [UserOperation.ofJsonText?, Json.parse?_compact op.isWritable_toJson, Option.bind_some,
      op.ofJson?_toJson]
  · rw [UserOperation.ofJsonText?, Json.parse?_pretty op.isWritable_toJson, Option.bind_some,
      op.ofJson?_toJson]
  · rw [Call.ofJsonText?, Json.parse?_compact c.isWritable_toJson, Option.bind_some,
      c.ofJson?_toJson]
  · rw [Call.ofJsonText?, Json.parse?_pretty c.isWritable_toJson, Option.bind_some,
      c.ofJson?_toJson]

end SmartAccount
