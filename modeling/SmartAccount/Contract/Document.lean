import SmartAccount.Contract.Interface
/-!
# The ABI documents of the contracts

The document that a compiler writes for a contract follows from its interface: one item for each
function and event, in the order of declaration, over several lines.
-/

namespace SmartAccount.Contract

open Abi

mutual

/-- A parameter: its name, its type and the type that the contract declares. A struct lists its
fields. -/
def paramMembers (name declared : String) : Ty → List (String × Json)
  | .tuple struct fields =>
    [("name", .string name), ("type", .string (Ty.tuple struct fields).documentName),
      ("internalType", .string declared), ("components", .array (paramItems fields))]
  | .array item =>
    match item.components with
    | .nil =>
      [("name", .string name), ("type", .string (Ty.array item).documentName),
        ("internalType", .string declared)]
    | _ =>
      [("name", .string name), ("type", .string (Ty.array item).documentName),
        ("internalType", .string declared), ("components", .array (componentItems item))]
  | type =>
    [("name", .string name), ("type", .string type.documentName),
      ("internalType", .string declared)]

/-- The fields of the struct that a type is, or is an array of. -/
def componentItems : Ty → List Json
  | .tuple _ fields => paramItems fields
  | .array item => componentItems item
  | _ => []

/-- One item for each field. -/
def paramItems : Fields → List Json
  | .nil => []
  | .cons name declared type rest => .record (paramMembers name declared type) :: paramItems rest

end

/-- One item for each field of an event, which says whether it is indexed. -/
def eventItems : EventFields → List Json
  | .nil => []
  | .indexed name declared type rest =>
    .record (paramMembers name declared (.word type) ++ [("indexed", .bool true)])
      :: eventItems rest
  | .plain name declared type rest =>
    .record (paramMembers name declared type ++ [("indexed", .bool false)]) :: eventItems rest

def Function.item (f : Function) : Json :=
  .record [("type", .string "function"), ("name", .string f.name),
    ("inputs", .array (paramItems f.inputs)), ("outputs", .array (paramItems f.outputs)),
    ("stateMutability", .string f.mutability.name)]

def Event.item (e : Event) : Json :=
  .record [("type", .string "event"), ("name", .string e.name),
    ("inputs", .array (eventItems e.fields)), ("anonymous", .bool false)]

namespace Interface

/-- What a document says before the functions: how the contract is deployed and whether it
accepts plain transfers. -/
def openingItems (i : Interface) : List Json :=
  (i.deployment.toList.map fun inputs =>
    .record [("type", .string "constructor"), ("inputs", .array (paramItems inputs)),
      ("stateMutability", .string Mutability.nonpayable.name)])
  ++ if i.receives then
      [.record [("type", .string "receive"), ("stateMutability", .string Mutability.payable.name)]]
    else []

/-- The document of a contract. -/
def document (i : Interface) : Json :=
  .array (i.openingItems ++ i.functions.map (·.item) ++ i.events.map (·.item))

/-- The text of the document, which ends in a line break. -/
def documentText (i : Interface) : String := i.document.pretty ++ "\n"

/-- A line for each function and then for each event, in the order of their names: what it is
known by on the chain, and its signature. -/
def selectorLines (i : Interface) : List String :=
  let functions := i.functions.mergeSort fun a b => decide (a.name ≤ b.name)
  let events := i.events.mergeSort fun a b => decide (a.name ≤ b.name)
  functions.map (fun f => "function " ++ Hex.text f.selector ++ " " ++ f.signature)
    ++ events.map fun e => "event    " ++ e.topic.text ++ " " ++ e.signature

end Interface

/-- An occurrence as it is reported: the event, and inside it the struct of its fields. -/
def Occurrence.display (o : Occurrence) : String :=
  o.event.name ++ "(" ++ displayStruct o.event.name
    (o.event.fields.all.display (o.event.fields.allValues o.values)) ++ ")"

end SmartAccount.Contract
