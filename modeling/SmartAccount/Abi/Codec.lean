import SmartAccount.Abi.Type
/-!
# Encoding and decoding contract values

The value of a static type stands in place; in the place of a dynamic value stands the offset of
its encoding, counted from the start of the enclosing tuple. `encode` and `encodeFields` write
this form, `decode` and `decodeFields` read it.

Reading is lenient about what no reader needs: offsets may point anywhere within the enclosing
data, filling is not looked at, and left-over data is ignored. Whether a word holds more than
its type uses is noted on the way and reported beside the value, so that a fault of structure
is always found before one of content.
-/

namespace SmartAccount.Abi

/-- Why data is not the encoding of a value. -/
inductive DecodeError where
  /-- The data ends before the value does. -/
  | overrun
  /-- An offset, a length or a word holds more than it may. -/
  | typeCheckFail
  /-- No function of the contract has the selector. -/
  | unknownSelector
  /-- No event of the contract has the topic. -/
  | unknownTopic
  /-- The event has another count of topics. -/
  | topicCount
  deriving DecidableEq, Repr

/-- A part of a tuple: its encoding, and whether it is reached through an offset. -/
structure Part where
  isDynamic : Bool
  body : Bytes

/-- The length of what stands in place for the parts. -/
def headLength : List Part → Nat
  | [] => 0
  | p :: rest => (if p.isDynamic then 32 else p.body.length) + headLength rest

/-- What stands in place for the parts, when the encodings of the dynamic ones start at
`offset`. -/
def heads (offset : Nat) : List Part → Bytes
  | [] => []
  | p :: rest =>
    if p.isDynamic then
      Word.bytes (BitVec.ofNat 256 offset) ++ heads (offset + p.body.length) rest
    else p.body ++ heads offset rest

/-- The encodings of the dynamic parts. -/
def tails : List Part → Bytes
  | [] => []
  | p :: rest => if p.isDynamic then p.body ++ tails rest else tails rest

/-- A tuple of parts: what stands in place, then the encodings of the dynamic parts. -/
def layout (parts : List Part) : Bytes :=
  heads (headLength parts) parts ++ tails parts

/-- A length or a count as a word. -/
def lengthWord (n : Nat) : Bytes := Word.bytes (BitVec.ofNat 256 n)

/-- A byte string filled with zeros up to whole words. -/
def fill (bytes : Bytes) : Bytes :=
  bytes ++ List.replicate ((32 - bytes.length % 32) % 32) 0

mutual

/-- The encoding of a value on its own. -/
def Ty.encode : (t : Ty) → t.Value → Bytes
  | .word t, v => Word.bytes (t.toWord v)
  | .bytes, v => lengthWord v.length ++ fill v
  | .array item, v => lengthWord v.length ++ layout (v.map fun a => ⟨item.isDynamic, item.encode a⟩)
  | .tuple _ fields, v => layout (fields.parts v)

/-- The parts of a tuple. -/
def Fields.parts : (fields : Fields) → fields.Value → List Part
  | .nil, _ => []
  | .cons _ _ type rest, (a, as) => ⟨type.isDynamic, type.encode a⟩ :: rest.parts as

end

/-- The encoding of a list of arguments. -/
def Fields.encode (fields : Fields) (v : fields.Value) : Bytes := layout (fields.parts v)

/-- The word at a position. -/
def wordAt (data : Bytes) (position : Nat) : Except DecodeError Word :=
  let bytes := (data.drop position).take 32
  if bytes.length = 32 then .ok (Word.ofBytes bytes) else .error .overrun

/-- The offset, length or count at a position: a word below `2 ^ 64`. -/
def lengthAt (data : Bytes) (position : Nat) : Except DecodeError Nat := do
  let w ← wordAt data position
  if w >>> 64 = 0 then return w.toNat else throw .typeCheckFail

/-- The data from an offset on. -/
def enter (data : Bytes) (offset : Nat) : Except DecodeError Bytes :=
  if offset ≤ data.length then .ok (data.drop offset) else .error .overrun

/-- The data that the offset at a position leads to. -/
def follow (data : Bytes) (position : Nat) : Except DecodeError Bytes := do
  enter data (← lengthAt data position)

/-- What reading a value gives: the value, whether all its words were clean, and the position
after what stands in place for it. -/
structure Reading (α : Type) where
  value : α
  isClean : Bool
  next : Nat

/-- Reads values of one kind, one after the other. -/
def readMany {α : Type} (read : Nat → Except DecodeError (Reading α)) :
    (count : Nat) → (position : Nat) → Except DecodeError (Reading (List α))
  | 0, position => .ok ⟨[], true, position⟩
  | count + 1, position => do
    let a ← read position
    let as ← readMany read count a.next
    return ⟨a.value :: as.value, a.isClean && as.isClean, as.next⟩

mutual

/-- Reads a value of the type at a position of the enclosing tuple. -/
def Ty.read : (t : Ty) → (data : Bytes) → (position : Nat) → Except DecodeError (Reading t.Value)
  | .word t, data, position => do
    let w ← wordAt data position
    return ⟨t.ofWord w, t.isClean w, position + 32⟩
  | .bytes, data, position => do
    let inner ← follow data position
    let length ← lengthAt inner 0
    let content := inner.drop 32
    if length ≤ content.length then return ⟨content.take length, true, position + 32⟩
    else throw .overrun
  | .array item, data, position => do
    let inner ← follow data position
    let count ← lengthAt inner 0
    let items := inner.drop 32
    if count ≤ items.length / 32 then
      let r ← readMany (item.read items) count 0
      return ⟨r.value, r.isClean, position + 32⟩
    else throw .overrun
  | .tuple _ fields, data, position =>
    if fields.isDynamic then do
      let inner ← follow data position
      let r ← fields.read inner 0
      return ⟨r.value, r.isClean, position + 32⟩
    else fields.read data position

/-- Reads the fields of a tuple, one after the other. -/
def Fields.read : (fields : Fields) → (data : Bytes) → (position : Nat) →
    Except DecodeError (Reading fields.Value)
  | .nil, _, position => .ok ⟨(), true, position⟩
  | .cons _ _ type rest, data, position => do
    let a ← type.read data position
    let as ← rest.read data a.next
    return ⟨(a.value, as.value), a.isClean && as.isClean, as.next⟩

end

/-- The value of a reading. When `validate` is set, a word that is not clean is an error. -/
def Reading.accept {α : Type} (validate : Bool) (r : Reading α) : Except DecodeError α :=
  if validate && !r.isClean then .error .typeCheckFail else .ok r.value

/-- The list of arguments that data holds. -/
def Fields.decode (fields : Fields) (validate : Bool) (data : Bytes) :
    Except DecodeError fields.Value := do
  (← fields.read data 0).accept validate

/-- The encoding of one value, as an argument list of its own. -/
def Ty.encodeAlone (t : Ty) (v : t.Value) : Bytes := layout [⟨t.isDynamic, t.encode v⟩]

/-- The value that an argument list of its own holds. -/
def Ty.decodeAlone (t : Ty) (validate : Bool) (data : Bytes) : Except DecodeError t.Value := do
  (← t.read data 0).accept validate

mutual

/-- The bytes of a value without offsets, lengths and filling. -/
def Ty.packed : (t : Ty) → t.Value → Bytes
  | .word t, v => t.packed v
  | .bytes, v => v
  | .array item, v => v.flatMap fun a => item.encode a
  | .tuple _ fields, v => fields.packed v

def Fields.packed : (fields : Fields) → fields.Value → Bytes
  | .nil, _ => []
  | .cons _ _ type rest, (a, as) => type.packed a ++ rest.packed as

end

end SmartAccount.Abi
