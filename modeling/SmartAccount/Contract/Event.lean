import SmartAccount.Abi.Codec
import SmartAccount.Abi.Display
/-!
# Events of a contract

A log holds topics and data. The first topic is the hash of the signature of the event, the
indexed fields follow as topics of their own, and the other fields are encoded in the data.
-/

namespace SmartAccount.Contract

open Abi

/-- The fields of an event in order, each with its name and declared type. An indexed field
takes a topic, so its type is a one-word type. -/
inductive EventFields where
  | nil
  | indexed (name declared : String) (type : WordTy) (rest : EventFields)
  | plain (name declared : String) (type : Ty) (rest : EventFields)
  deriving DecidableEq, Repr

namespace EventFields

/-- The values of the fields, in order. -/
@[reducible] def Value : EventFields → Type
  | .nil => Unit
  | .indexed _ _ type rest => type.Value × rest.Value
  | .plain _ _ type rest => type.Value × rest.Value

/-- The fields as a list of named types. -/
def all : EventFields → Fields
  | .nil => .nil
  | .indexed name declared type rest => .cons name declared (.word type) rest.all
  | .plain name declared type rest => .cons name declared type rest.all

/-- The fields that stand in the data. -/
def data : EventFields → Fields
  | .nil => .nil
  | .indexed _ _ _ rest => rest.data
  | .plain name declared type rest => .cons name declared type rest.data

/-- How many fields take a topic. -/
def indexedCount : EventFields → Nat
  | .nil => 0
  | .indexed _ _ _ rest => rest.indexedCount + 1
  | .plain _ _ _ rest => rest.indexedCount

/-- The values as values of named types. -/
def allValues : (fields : EventFields) → fields.Value → fields.all.Value
  | .nil, _ => ()
  | .indexed _ _ _ rest, (a, as) => (a, rest.allValues as)
  | .plain _ _ _ rest, (a, as) => (a, rest.allValues as)

def ofAllValues : (fields : EventFields) → fields.all.Value → fields.Value
  | .nil, _ => ()
  | .indexed _ _ _ rest, (a, as) => (a, rest.ofAllValues as)
  | .plain _ _ _ rest, (a, as) => (a, rest.ofAllValues as)

/-- The words of the indexed fields. -/
def words : (fields : EventFields) → fields.Value → List Word
  | .nil, _ => []
  | .indexed _ _ type rest, (a, as) => type.toWord a :: rest.words as
  | .plain _ _ _ rest, (_, as) => rest.words as

/-- The values of the fields in the data. -/
def dataValues : (fields : EventFields) → fields.Value → fields.data.Value
  | .nil, _ => ()
  | .indexed _ _ _ rest, (_, as) => rest.dataValues as
  | .plain _ _ _ rest, (a, as) => (a, rest.dataValues as)

/-- The values from the words of the indexed fields, one for each, and the values in the
data. -/
def assemble? : (fields : EventFields) → List Word → fields.data.Value → Option fields.Value
  | .nil, [], _ => some ()
  | .nil, _ :: _, _ => none
  | .indexed _ _ _ _, [], _ => none
  | .indexed _ _ type rest, w :: words, v =>
    (rest.assemble? words v).map fun as => (type.ofWord w, as)
  | .plain _ _ _ rest, words, (a, as) => (rest.assemble? words as).map fun as => (a, as)

end EventFields

/-- An event of a contract. -/
structure Event where
  name : String
  fields : EventFields
  deriving DecidableEq, Repr

namespace Event

def signature (e : Event) : String := e.name ++ e.fields.all.signature

/-- The first topic of every log of the event. -/
def topic (e : Event) : Hash := Hash.of (textBytes e.signature)

end Event

/-- An event with values for its fields. -/
structure Occurrence where
  event : Event
  values : event.fields.Value

namespace Occurrence

/-- The topics of the log of an occurrence. -/
def topics (o : Occurrence) : List Hash := o.event.topic :: o.event.fields.words o.values

/-- The data of the log of an occurrence. -/
def data (o : Occurrence) : Bytes :=
  o.event.fields.data.encode (o.event.fields.dataValues o.values)

/-- The occurrence of one of the events that a log holds. -/
def decode (events : List Event) (topics : List Hash) (data : Bytes) :
    Except DecodeError Occurrence :=
  match topics with
  | [] => .error .unknownTopic
  | topic :: words =>
    match events.find? (·.topic = topic) with
    | none => .error .unknownTopic
    | some e =>
      if words.length ≠ e.fields.indexedCount then .error .topicCount
      else do
        let v ← e.fields.data.decode false data
        match e.fields.assemble? words v with
        | some values => return ⟨e, values⟩
        | none => throw .topicCount

end Occurrence

end SmartAccount.Contract
