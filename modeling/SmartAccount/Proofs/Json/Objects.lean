import Mathlib.Data.List.Forall2
import SmartAccount.Proofs.Json.Forms
/-!
# Records read from objects

A record is read from an object by its keys alone. What each key of an operation asks of the object
is said in one table (`UserOperation.readings`): a value that is read as the field, or, for some
keys, none at all. An object is read as an operation if and only if it holds, under each key, at
most one value and what the table asks (`UserOperation.ofJson?_record_iff`).

The values under a key are all that the reader sees of an object, and only the keys of the table
matter. So the order of the members is lost, members under other keys make no difference, and a
known key that is repeated cannot be read.
-/

namespace SmartAccount

namespace Json

variable {α : Type} {members others : List (String × Json)} {key : String}

/-! ## The values under a key -/

/-- Under the key the members hold this value and no other, or none at all. -/
def Holds (members : List (String × Json)) (key : String) (value : Option Json) : Prop :=
  valuesOf key members = value.toList

theorem single?_eq_some_iff {value : Option Json} :
    single? members key = some value ↔ Holds members key value := by
  unfold single? Holds
  match valuesOf key members with
  | [] => cases value <;> simp
  | [first] => cases value <;> simp
  | _ :: _ :: _ => cases value <;> simp

/-- The order in which the values under a key stand does not matter, as there is at most one. -/
theorem Holds.of_perm {value : Option Json} (h : Holds members key value)
    (hperm : (valuesOf key members).Perm (valuesOf key others)) : Holds others key value := by
  unfold Holds at h ⊢
  rw [h] at hperm
  cases value with
  | none => exact hperm.symm.eq_nil
  | some value => exact List.perm_singleton.mp hperm.symm

theorem valuesOf_perm (h : members.Perm others) (key : String) :
    (valuesOf key members).Perm (valuesOf key others) :=
  (h.filter _).map _

/-- Members under other keys make no difference. -/
theorem valuesOf_filter {fields : List String} (hkey : key ∈ fields) :
    valuesOf key (members.filter (·.1 ∈ fields)) = valuesOf key members := by
  unfold valuesOf
  rw [List.filter_filter]
  refine congrArg _ (List.filter_congr fun member _ => ?_)
  by_cases h : member.1 = key
  · simp [h, hkey]
  · simp [h]

theorem valuesOf_of_not_mem (h : key ∉ members.map (·.1)) : valuesOf key members = [] := by
  unfold valuesOf
  rw [List.filter_eq_nil_iff.mpr, List.map_nil]
  intro member hmember heq
  exact h (List.mem_map.mpr ⟨member, hmember, of_decide_eq_true heq⟩)

theorem mem_valuesOf {value : Json} (h : (key, value) ∈ members) :
    value ∈ valuesOf key members :=
  List.mem_map.mpr ⟨_, List.mem_filter.mpr ⟨h, decide_eq_true rfl⟩, rfl⟩

theorem length_valuesOf : (valuesOf key members).length = (members.map (·.1)).count key := by
  rw [valuesOf, List.length_map, ← List.countP_eq_length_filter, List.count, List.countP_map]
  refine List.countP_congr fun member _ => ?_
  simp

/-! ## What a field asks of its value -/

/-- The value is there and is read as the field. -/
def Required (read : Json → Option α) (a : α) (value : Option Json) : Prop :=
  ∃ j, value = some j ∧ read j = some a

/-- A field that is missing has a value of its own. -/
def Defaulted (missing : α) (read : Json → Option α) (a : α) (value : Option Json) : Prop :=
  value = none ∧ a = missing ∨ Required read a value

/-- A field that is missing or `null` is absent. -/
def Nullable (read : Json → Option α) (a : Option α) (value : Option Json) : Prop :=
  (value = none ∨ value = some .null) ∧ a = none ∨ ∃ x, a = some x ∧ Required read x value

variable {read : Json → Option α} {value : Option Json}

theorem required?_eq_some_iff {a : α} : required? read value = some a ↔ Required read a value :=
  Option.bind_eq_some_iff

theorem defaulted?_eq_some_iff {missing a : α} :
    defaulted? missing read value = some a ↔ Defaulted missing read a value := by
  cases value with
  | none => simp [defaulted?, Defaulted, Required, eq_comm]
  | some j => simp [defaulted?, Defaulted, Required]

theorem nullable?_of_ne {j : Json} (h : j ≠ .null) : nullable? read j = (read j).map some := by
  cases j with
  | null => exact absurd rfl h
  | _ => rfl

theorem nullable?_eq_some_iff (hnull : read .null = none) {a : Option α} :
    defaulted? none (nullable? read) value = some a ↔ Nullable read a value := by
  match value with
  | none => simp [defaulted?, Nullable, Required, eq_comm]
  | some j =>
    by_cases hj : j = .null
    · subst hj
      simp [defaulted?, nullable?, Nullable, Required, hnull, eq_comm]
    · simp [defaulted?, nullable?_of_ne hj, Nullable, Required, hj, and_comm, eq_comm]

/-! ## Reading an object -/

theorem record?_record (fields : List String) (members : List (String × Json)) :
    (record members).record? fields = fields.mapM (single? members) := by
  show (record members).named? >>= (fun members => fields.mapM (single? members)) = _
  rw [named?_record]
  rfl

/-- A row of fields is read if each of them is. -/
theorem exists_values_iff (find : String → Option (Option Json))
    (table : List (String × (Option Json → Prop))) :
    (∃ values, (table.map (·.1)).mapM find = some values
        ∧ List.Forall₂ (fun field value => field.2 value) table values)
      ↔ ∀ field ∈ table, ∃ value, find field.1 = some value ∧ field.2 value := by
  induction table with
  | nil => simp
  | cons field table ih =>
    rw [List.forall_mem_cons, ← ih, List.map_cons, List.mapM_cons]
    constructor
    · rintro ⟨values, hvalues, hall⟩
      obtain ⟨value, rest, hvalue, hrest, rfl⟩ := List.forall₂_cons_left_iff.mp hall
      obtain ⟨first, hfirst, hmore⟩ := Option.bind_eq_some_iff.mp hvalues
      obtain ⟨more, hfind, heq⟩ := Option.bind_eq_some_iff.mp hmore
      obtain ⟨rfl, rfl⟩ := List.cons.inj (Option.some.inj heq)
      exact ⟨⟨first, hfirst, hvalue⟩, more, hfind, hrest⟩
    · rintro ⟨⟨value, hfind, hvalue⟩, values, hvalues, hall⟩
      refine ⟨value :: values, ?_, .cons hvalue hall⟩
      rw [hfind, hvalues]
      rfl

end Json

/-! ## Operations -/

namespace UserOperation

/-- The keys that have to be there. -/
def requiredNames : List String :=
  ["sender", "nonce", "callData", "callGasLimit", "verificationGasLimit", "preVerificationGas",
    "maxPriorityFeePerGas", "maxFeePerGas", "signature"]

/-- The keys under which there may be `null`. -/
def nullableNames : List String := ["factory", "paymaster"]

/-- What each key asks of the value that stands under it, for the operation to be read. -/
def readings (op : UserOperation) : List (String × (Option Json → Prop)) :=
  [("sender", Json.Required Json.address? op.sender),
    ("nonce", Json.Required (Json.bits? 256) op.nonce),
    ("factory", Json.Nullable Json.address? op.factory),
    ("factoryData", Json.Defaulted [] Json.bytes? op.factoryData),
    ("callData", Json.Required Json.bytes? op.callData),
    ("callGasLimit", Json.Required (Json.bits? 128) op.callGasLimit),
    ("verificationGasLimit", Json.Required (Json.bits? 128) op.verificationGasLimit),
    ("preVerificationGas", Json.Required (Json.bits? 256) op.preVerificationGas),
    ("maxPriorityFeePerGas", Json.Required (Json.bits? 128) op.maxPriorityFeePerGas),
    ("maxFeePerGas", Json.Required (Json.bits? 128) op.maxFeePerGas),
    ("paymaster", Json.Nullable Json.address? op.paymaster),
    ("paymasterVerificationGasLimit",
      Json.Defaulted 0 (Json.bits? 128) op.paymasterVerificationGasLimit),
    ("paymasterPostOpGasLimit", Json.Defaulted 0 (Json.bits? 128) op.paymasterPostOpGasLimit),
    ("paymasterData", Json.Defaulted [] Json.bytes? op.paymasterData),
    ("signature", Json.Required Json.bytes? op.signature)]

/-- The members give the operation: under each key there is at most one value, and it is what the
key asks for. Other keys are not asked about. -/
def IsGivenBy (op : UserOperation) (members : List (String × Json)) : Prop :=
  ∀ field ∈ op.readings, ∃ value, Json.Holds members field.1 value ∧ field.2 value

/-- An operation is read from values in the order of the keys if each is what its key asks for. -/
theorem ofJson?_eq_some_iff {j : Json} {op : UserOperation} :
    ofJson? j = some op ↔ ∃ values, j.record? fieldNames = some values
      ∧ List.Forall₂ (fun field value => field.2 value) op.readings values := by
  have required {α : Type} {read : Json → Option α} {value : Option Json} {a : α} :
      Json.required? read value = some a ↔ Json.Required read a value :=
    Json.required?_eq_some_iff
  have defaulted {α : Type} {read : Json → Option α} {value : Option Json} {missing a : α} :
      Json.defaulted? missing read value = some a ↔ Json.Defaulted missing read a value :=
    Json.defaulted?_eq_some_iff
  have nullable {value : Option Json} {a : Option Address} :
      Json.defaulted? none (Json.nullable? Json.address?) value = some a
        ↔ Json.Nullable Json.address? a value :=
    Json.nullable?_eq_some_iff rfl
  unfold ofJson?
  rw [Option.bind_eq_bind, Option.bind_eq_some_iff]
  refine exists_congr fun values => and_congr_right fun _ => ?_
  constructor
  · intro h
    -- the fields are read one after the other, in the order of the table
    split at h
    · obtain ⟨_, hsender, h⟩ := Option.bind_eq_some_iff.mp h
      obtain ⟨_, hnonce, h⟩ := Option.bind_eq_some_iff.mp h
      obtain ⟨_, hfactory, h⟩ := Option.bind_eq_some_iff.mp h
      obtain ⟨_, hfactoryData, h⟩ := Option.bind_eq_some_iff.mp h
      obtain ⟨_, hcallData, h⟩ := Option.bind_eq_some_iff.mp h
      obtain ⟨_, hcallGas, h⟩ := Option.bind_eq_some_iff.mp h
      obtain ⟨_, hverificationGas, h⟩ := Option.bind_eq_some_iff.mp h
      obtain ⟨_, hpreVerificationGas, h⟩ := Option.bind_eq_some_iff.mp h
      obtain ⟨_, hmaxPriorityFee, h⟩ := Option.bind_eq_some_iff.mp h
      obtain ⟨_, hmaxFee, h⟩ := Option.bind_eq_some_iff.mp h
      obtain ⟨_, hpaymaster, h⟩ := Option.bind_eq_some_iff.mp h
      obtain ⟨_, hpaymasterVerification, h⟩ := Option.bind_eq_some_iff.mp h
      obtain ⟨_, hpaymasterPostOp, h⟩ := Option.bind_eq_some_iff.mp h
      obtain ⟨_, hpaymasterData, h⟩ := Option.bind_eq_some_iff.mp h
      obtain ⟨_, hsignature, h⟩ := Option.bind_eq_some_iff.mp h
      cases h
      exact .cons (required.mp hsender) <| .cons (required.mp hnonce)
        <| .cons (nullable.mp hfactory) <| .cons (defaulted.mp hfactoryData)
        <| .cons (required.mp hcallData) <| .cons (required.mp hcallGas)
        <| .cons (required.mp hverificationGas) <| .cons (required.mp hpreVerificationGas)
        <| .cons (required.mp hmaxPriorityFee) <| .cons (required.mp hmaxFee)
        <| .cons (nullable.mp hpaymaster) <| .cons (defaulted.mp hpaymasterVerification)
        <| .cons (defaulted.mp hpaymasterPostOp) <| .cons (defaulted.mp hpaymasterData)
        <| .cons (required.mp hsignature) .nil
    · cases h
  · intro h
    simp only [readings, List.forall₂_cons_left_iff, List.forall₂_nil_left_iff] at h
    obtain ⟨_, _, hsender, ⟨_, _, hnonce, ⟨_, _, hfactory, ⟨_, _, hfactoryData, ⟨_, _, hcallData,
      ⟨_, _, hcallGas, ⟨_, _, hverificationGas, ⟨_, _, hpreVerificationGas, ⟨_, _, hmaxPriorityFee,
      ⟨_, _, hmaxFee, ⟨_, _, hpaymaster, ⟨_, _, hpaymasterVerification, ⟨_, _, hpaymasterPostOp,
      ⟨_, _, hpaymasterData, ⟨_, _, hsignature, rfl, rfl⟩, rfl⟩, rfl⟩, rfl⟩, rfl⟩, rfl⟩, rfl⟩,
      rfl⟩, rfl⟩, rfl⟩, rfl⟩, rfl⟩, rfl⟩, rfl⟩, rfl⟩ := h
    simp only [required.mpr hsender, required.mpr hnonce, nullable.mpr hfactory,
      defaulted.mpr hfactoryData, required.mpr hcallData, required.mpr hcallGas,
      required.mpr hverificationGas, required.mpr hpreVerificationGas,
      required.mpr hmaxPriorityFee, required.mpr hmaxFee, nullable.mpr hpaymaster,
      defaulted.mpr hpaymasterVerification, defaulted.mpr hpaymasterPostOp,
      defaulted.mpr hpaymasterData, required.mpr hsignature, Option.bind_eq_bind, Option.bind_some]

variable {op : UserOperation} {members others : List (String × Json)} {key : String}

/-- **An object is read as the operation that its members give.** -/
theorem ofJson?_record_iff : ofJson? (.record members) = some op ↔ op.IsGivenBy members := by
  have hnames : fieldNames = op.readings.map (·.1) := rfl
  rw [ofJson?_eq_some_iff, Json.record?_record, hnames, Json.exists_values_iff]
  simp only [Json.single?_eq_some_iff]
  rfl

theorem ofJson?_record_eq_none (h : ∀ op : UserOperation, ¬ op.IsGivenBy members) :
    ofJson? (.record members) = none :=
  Option.eq_none_iff_forall_ne_some.mpr fun op hop => h op (ofJson?_record_iff.mp hop)

theorem ofJson?_record_congr
    (h : ∀ op : UserOperation, op.IsGivenBy members ↔ op.IsGivenBy others) :
    ofJson? (.record members) = ofJson? (.record others) := by
  refine Option.ext fun op => ?_
  rw [ofJson?_record_iff, ofJson?_record_iff, h]

/-- Each of the keys asks something. -/
theorem exists_reading (op : UserOperation) (h : key ∈ fieldNames) :
    ∃ asks, (key, asks) ∈ op.readings := by
  have hnames : fieldNames = op.readings.map (·.1) := rfl
  rw [hnames] at h
  obtain ⟨field, hfield, rfl⟩ := List.mem_map.mp h
  exact ⟨field.2, hfield⟩

theorem mem_fieldNames {field : String × (Option Json → Prop)} (h : field ∈ op.readings) :
    field.1 ∈ fieldNames :=
  List.mem_map_of_mem (f := (·.1)) h

/-! ### Members that are there -/

/-- Only the members under known keys matter, and their order does not. -/
theorem IsGivenBy.of_perm (h : op.IsGivenBy members)
    (hperm : (members.filter (·.1 ∈ fieldNames)).Perm (others.filter (·.1 ∈ fieldNames))) :
    op.IsGivenBy others := by
  intro field hfield
  obtain ⟨value, hholds, hasks⟩ := h field hfield
  have hvalues := Json.valuesOf_perm hperm field.1
  rw [Json.valuesOf_filter (mem_fieldNames hfield),
    Json.valuesOf_filter (mem_fieldNames hfield)] at hvalues
  exact ⟨value, hholds.of_perm hvalues, hasks⟩

theorem ofJson?_record_perm
    (hperm : (members.filter (·.1 ∈ fieldNames)).Perm (others.filter (·.1 ∈ fieldNames))) :
    ofJson? (.record members) = ofJson? (.record others) :=
  ofJson?_record_congr fun _ => ⟨fun h => h.of_perm hperm, fun h => h.of_perm hperm.symm⟩

/-! ### Members that are missing, repeated or `null` -/

theorem not_asks_none (op : UserOperation) :
    ∀ field ∈ op.readings, field.1 ∈ requiredNames → ¬ field.2 none := by
  simp [readings, requiredNames, Json.Required]

theorem not_asks_null (op : UserOperation) :
    ∀ field ∈ op.readings, field.1 ∉ nullableNames → ¬ field.2 (some .null) := by
  have haddress : Json.address? .null = none := rfl
  have hbits (width : Nat) : Json.bits? width .null = none := rfl
  have hbytes : Json.bytes? .null = none := rfl
  simp [readings, nullableNames, Json.Required, Json.Defaulted, haddress, hbits, hbytes]

theorem asks_null_iff (op : UserOperation) :
    ∀ field ∈ op.readings, field.1 ∈ nullableNames → (field.2 (some .null) ↔ field.2 none) := by
  have haddress : Json.address? .null = none := rfl
  simp [readings, nullableNames, Json.Required, Json.Nullable, haddress]

theorem ofJson?_record_of_missing (hkey : key ∈ requiredNames)
    (hmissing : key ∉ members.map (·.1)) : ofJson? (.record members) = none := by
  have hsubset : requiredNames ⊆ fieldNames := by decide
  refine ofJson?_record_eq_none fun op h => ?_
  obtain ⟨asks, hmem⟩ := op.exists_reading (hsubset hkey)
  obtain ⟨value, hholds, hasks⟩ := h _ hmem
  have hnone : value = none := by
    rw [Json.Holds, Json.valuesOf_of_not_mem hmissing] at hholds
    exact Option.toList_eq_nil_iff.mp hholds.symm
  rw [hnone] at hasks
  exact op.not_asks_none _ hmem hkey hasks

theorem ofJson?_record_of_repeated (hkey : key ∈ fieldNames)
    (hrepeated : 2 ≤ (members.map (·.1)).count key) : ofJson? (.record members) = none := by
  refine ofJson?_record_eq_none fun op h => ?_
  obtain ⟨asks, hmem⟩ := op.exists_reading hkey
  obtain ⟨value, hholds, -⟩ := h _ hmem
  rw [← Json.length_valuesOf, hholds] at hrepeated
  have hlength := Option.length_toList_le (o := value)
  omega

theorem ofJson?_record_of_null (hkey : key ∈ fieldNames) (hnullable : key ∉ nullableNames)
    (hnull : (key, .null) ∈ members) : ofJson? (.record members) = none := by
  refine ofJson?_record_eq_none fun op h => ?_
  obtain ⟨asks, hmem⟩ := op.exists_reading hkey
  obtain ⟨value, hholds, hasks⟩ := h _ hmem
  have hvalue : value = some .null := by
    have hmem := Json.mem_valuesOf hnull
    rw [hholds] at hmem
    exact Option.mem_toList.mp hmem
  rw [hvalue] at hasks
  exact op.not_asks_null _ hmem hnullable hasks

/-- A factory or a paymaster that is `null` is one that is not there. -/
theorem isGivenBy_null_cons_iff (hkey : key ∈ nullableNames) (hnew : key ∉ others.map (·.1)) :
    op.IsGivenBy ((key, .null) :: others) ↔ op.IsGivenBy others := by
  refine forall₂_congr fun field hfield => ?_
  unfold Json.Holds
  rw [Json.valuesOf_cons]
  -- under its own key the `null` stands alone; no other key sees it
  by_cases hfor : key = field.1
  · subst hfor
    rw [if_pos rfl, Json.valuesOf_of_not_mem hnew]
    have hasks := op.asks_null_iff field hfield hkey
    constructor
    · rintro ⟨value, hnull, h⟩
      cases value with
      | none => cases hnull
      | some value =>
        cases hnull
        exact ⟨none, rfl, hasks.mp h⟩
    · rintro ⟨value, hnone, h⟩
      cases value with
      | none => exact ⟨some .null, rfl, hasks.mpr h⟩
      | some value => cases hnone
  · rw [if_neg hfor]

theorem ofJson?_record_null (hkey : key ∈ nullableNames) (hnew : key ∉ others.map (·.1))
    (hperm : members.Perm ((key, .null) :: others)) :
    ofJson? (.record members) = ofJson? (.record others) := by
  rw [ofJson?_record_perm (hperm.filter _)]
  exact ofJson?_record_congr fun _ => isGivenBy_null_cons_iff hkey hnew

/-! ### The text -/

theorem ofJsonText?_of_parse {text : String} {j : Json} (h : Json.parse? text = some j) :
    ofJsonText? text = ofJson? j := by
  rw [ofJsonText?, h, Option.bind_some]

/-- **An object is read by its keys.** Take any two texts that hold objects.

The first is read as an operation exactly if its members give the operation: one value for each of
the nine keys that are required, at most one for each of the other six, each read as its field, and
the default of the field where there is none. So the two are read alike if they have the same
members under known keys, in whatever order, with whatever else between them; or if the first has
besides a `null` for the factory or the paymaster that the second does not mention. The first is not
read if a required key is missing, if a known key is repeated, or if there is `null` under another
known key. -/
theorem reads_by_key {text other : String} {members others : List (String × Json)}
    (htext : Json.parse? text = some (.record members))
    (hother : Json.parse? other = some (.record others)) :
    (∀ op : UserOperation, ofJsonText? text = some op ↔ op.IsGivenBy members)
      ∧ ((members.filter (·.1 ∈ fieldNames)).Perm (others.filter (·.1 ∈ fieldNames)) →
        ofJsonText? text = ofJsonText? other)
      ∧ (∀ key ∈ nullableNames, key ∉ others.map (·.1) →
        members.Perm ((key, .null) :: others) → ofJsonText? text = ofJsonText? other)
      ∧ (∀ key ∈ requiredNames, key ∉ members.map (·.1) → ofJsonText? text = none)
      ∧ (∀ key ∈ fieldNames, 2 ≤ (members.map (·.1)).count key → ofJsonText? text = none)
      ∧ (∀ key ∈ fieldNames, key ∉ nullableNames → (key, .null) ∈ members →
        ofJsonText? text = none) := by
  rw [ofJsonText?_of_parse htext, ofJsonText?_of_parse hother]
  refine ⟨fun op => ofJson?_record_iff, ofJson?_record_perm, ?_, ?_, ?_, ?_⟩
  · intro key hkey hnew hperm
    exact ofJson?_record_null hkey hnew hperm
  · intro key hkey hmissing
    exact ofJson?_record_of_missing hkey hmissing
  · intro key hkey hrepeated
    exact ofJson?_record_of_repeated hkey hrepeated
  · intro key hkey hnullable hnull
    exact ofJson?_record_of_null hkey hnullable hnull

/-- Some members of an operation out of their order, with one of no meaning. -/
def scatteredFront : List (String × Json) :=
  [("comment", .array [.null]), ("signature", .string "0x00"),
    ("maxFeePerGas", .string "0x6fc23ac00"), ("nonce", .number "5"),
    ("paymasterData", .string "0xcc"), ("callData", .string "0xb61d27f6")]

/-- The other members, with a second one of no meaning under the same key. -/
def scatteredBack : List (String × Json) :=
  [("comment", .bool true), ("sender", .string "0x1111111111111111111111111111111111111111"),
    ("callGasLimit", .string "0x186a0"), ("verificationGasLimit", .string "0x30d40"),
    ("preVerificationGas", .string "0xc350"), ("maxPriorityFeePerGas", .string "0x3b9aca00")]

/-- The operation of the scattered members. -/
def gathered : UserOperation where
  sender := 0x1111111111111111111111111111111111111111
  nonce := 5
  factory := none
  factoryData := []
  callData := [0xb6, 0x1d, 0x27, 0xf6]
  callGasLimit := 100000
  verificationGasLimit := 200000
  preVerificationGas := 50000
  maxPriorityFeePerGas := 1000000000
  maxFeePerGas := 30000000000
  paymaster := none
  paymasterVerificationGasLimit := 0
  paymasterPostOpGasLimit := 0
  paymasterData := [0xcc]
  signature := [0]

/-- Scattered members with a factory that is `null` among them, in one line, are read as the
operation, and so they are without the factory and over several lines. -/
theorem reads_by_key_scattered :
    Json.parse? (Json.record (scatteredFront ++ ("factory", .null) :: scatteredBack)).compact
        = some (.record (scatteredFront ++ ("factory", .null) :: scatteredBack))
      ∧ Json.parse? (Json.record (scatteredFront ++ scatteredBack)).pretty
        = some (.record (scatteredFront ++ scatteredBack))
      ∧ gathered.IsGivenBy (scatteredFront ++ ("factory", .null) :: scatteredBack)
      ∧ ofJsonText? (Json.record (scatteredFront ++ ("factory", .null) :: scatteredBack)).compact
        = some gathered
      ∧ ofJsonText? (Json.record (scatteredFront ++ ("factory", .null) :: scatteredBack)).compact
        = ofJsonText? (Json.record (scatteredFront ++ scatteredBack)).pretty := by
  have htext := Json.parse?_compact
    (j := .record (scatteredFront ++ ("factory", .null) :: scatteredBack)) (by decide +kernel)
  have hother := Json.parse?_pretty (j := .record (scatteredFront ++ scatteredBack))
    (by decide +kernel)
  have hgiven : gathered.IsGivenBy (scatteredFront ++ ("factory", .null) :: scatteredBack) :=
    ofJson?_record_iff.mp (by decide +kernel)
  obtain ⟨hread, -, hnull, -, -, -⟩ := reads_by_key htext hother
  refine ⟨htext, hother, hgiven, (hread gathered).mpr hgiven, ?_⟩
  exact hnull "factory" (by decide) (by decide) List.perm_middle

end UserOperation

end SmartAccount
