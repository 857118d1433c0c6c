import SmartAccount.Abi.TypeName
import SmartAccount.Json.Reader
import SmartAccount.Json.Scalar
import SmartAccount.Json.Record
import SmartAccount.Json.Limits
/-!
# ABI documents

A compiler describes a contract by a JSON array of items: functions, events, errors, and at most
one constructor, fallback and receive function. A document keeps them apart, sorted by name.
Names and types are checked for syntax only, so types of any contract can be listed.
-/

namespace SmartAccount.Abi

/-- A parameter of a document item. Only parameters of events can be indexed. -/
inductive Param where
  | mk (name typeName : String) (indexed : Bool) (components : List Param)

namespace Param

def isIndexed : Param → Bool
  | .mk _ _ indexed _ => indexed

/-- The type name without the word that stands for the components. -/
def suffix (typeName : String) : String := String.ofList (typeName.toList.drop "tuple".length)

mutual

/-- The type in signatures: a tuple is written by its components. -/
def signatureType : Param → String
  | .mk _ typeName _ [] => typeName
  | .mk _ typeName _ (c :: rest) =>
    "(" ++ signatureType c ++ moreTypes rest ++ ")" ++ suffix typeName

/-- The types of the parameters after the first. -/
def moreTypes : List Param → String
  | [] => ""
  | p :: rest => "," ++ signatureType p ++ moreTypes rest

end

/-- The types of all parameters between parentheses. -/
def signature (params : List Param) : String :=
  "(" ++ ",".intercalate (params.map signatureType) ++ ")"

end Param

/-- What an item of a document describes. -/
inductive DocumentItem where
  | constructor (inputs : List Param)
  | fallback
  | receive
  | function (name : String) (inputs outputs : List Param) (mutability : String)
  | event (name : String) (inputs : List Param) (anonymous : Bool)
  | error (name : String) (inputs : List Param)

namespace DocumentItem

/-- The name and the types of a function, an event or an error. -/
def signature : DocumentItem → String
  | .function name inputs _ _ => name ++ Param.signature inputs
  | .event name inputs _ => name ++ Param.signature inputs
  | .error name inputs => name ++ Param.signature inputs
  | .constructor inputs => Param.signature inputs
  | _ => ""

/-- The name that items of one sort are ordered by. -/
def name : DocumentItem → String
  | .function name _ _ _ => name
  | .event name _ _ => name
  | .error name _ => name
  | _ => ""

def isFunction : DocumentItem → Bool
  | .function .. => true
  | _ => false

def isEvent : DocumentItem → Bool
  | .event .. => true
  | _ => false

def isError : DocumentItem → Bool
  | .error .. => true
  | _ => false

end DocumentItem

/-- The hash of a signature. -/
def signatureHash (signature : String) : Bytes := Keccak.hash (textBytes signature)

/-- A contract as a document describes it. -/
structure Document where
  constructor? : Option (List Param)
  fallback : Bool
  receive : Bool
  functions : List DocumentItem
  events : List DocumentItem
  errors : List DocumentItem

namespace Document

/-- A name that may be empty. -/
def name? (j : Json) : Option String := do
  let name ← j.string?
  if name.isEmpty || isIdentifier name then some name else none

/-- The names of the states that a function can promise. -/
def mutabilities : List String := ["pure", "view", "nonpayable", "payable"]

def mutability? : Json → Option String
  | .str (some s) => if mutabilities.contains s then some s else none
  | .object [(some s, .null)] => if mutabilities.contains s then some s else none
  | .object [(some s, .object [])] => if mutabilities.contains s then some s else none
  | _ => none

/-- What the members of an item say about its mutability. Older documents have two flags
instead of a name, of which only one may be raised. -/
def mutabilityOf? (members : List (String × Json)) : Option String := do
  let optional {α : Type} (read : Json → Option α) (key : String) : Option (Option α) := do
    Json.defaulted? none (Json.nullable? read) (← Json.single? members key)
  let named ← optional mutability? "stateMutability"
  let payable ← optional Json.bool? "payable"
  let constant ← optional Json.bool? "constant"
  match named with
  | some name => some name
  | none =>
    match payable.getD false, constant.getD false with
    | false, false => some "nonpayable"
    | true, false => some "payable"
    | false, true => some "view"
    | true, true => none

/-- The fields of a parameter. -/
def paramFields : List String := ["name", "type", "indexed", "internalType", "components"]

/-- A parameter. Components need a type name that starts with `tuple`; other type names are
checked for syntax. The depth of a value bounds the nesting of its components. -/
def param? (event : Bool) : (depth : Nat) → Json → Option Param
  | 0, _ => none
  | depth + 1, j => do
    match ← j.record? paramFields with
    | [name, type, indexed, internalType, components] =>
      let name ← Json.defaulted? "" name? name
      let type ← Json.required? Json.string? type
      let indexed ← Json.defaulted? none (Json.nullable? Json.bool?) indexed
      let _ ← Json.defaulted? none (Json.nullable? Json.string?) internalType
      let components ← Json.defaulted? [] Json.items? components
      let components ← components.mapM (param? false depth)
      if indexed.isSome && !event then none
      else if components.isEmpty then
        if isTypeName type then some (.mk name type (indexed.getD false) []) else none
      else if "tuple".toList.isPrefixOf type.toList then
        some (.mk name type (indexed.getD false) components)
      else none
    | _ => none

/-- A list of parameters. -/
def params? (event : Bool) (j : Json) : Option (List Param) := do
  (← j.items?).mapM (param? event Json.maxDepth)

/-- The members of an item beside its type, in an object, or what follows its type in an
array. -/
def splitTag? : Json → Option (String × Json)
  | .array (tag :: rest) => do some (← tag.string?, .array rest)
  | j => do
    let members ← j.named?
    let tag ← Json.required? Json.string? (← Json.single? members "type")
    some (tag, .record (members.filter (·.1 ≠ "type")))

/-- An item of a document. -/
def item? (j : Json) : Option DocumentItem := do
  let (tag, j) ← splitTag? j
  if tag = "constructor" then
    match ← j.members? ["inputs"] with
    | [inputs] =>
      let inputs ← Json.required? (params? false) inputs
      let _ ← mutabilityOf? (← j.named?)
      some (.constructor inputs)
    | _ => none
  else if tag = "fallback" then do
    let _ ← mutabilityOf? (← j.named?)
    some .fallback
  else if tag = "receive" then do
    let _ ← mutabilityOf? (← j.named?)
    some .receive
  else if tag = "function" then
    match ← j.members? ["name", "inputs", "outputs"] with
    | [name, inputs, outputs] =>
      let name ← Json.required? name? name
      let inputs ← Json.required? (params? false) inputs
      let outputs ← Json.required? (params? false) outputs
      some (.function name inputs outputs (← mutabilityOf? (← j.named?)))
    | _ => none
  else if tag = "event" then
    match ← j.record? ["name", "inputs", "anonymous"] with
    | [name, inputs, anonymous] =>
      let name ← Json.required? name? name
      let inputs ← Json.required? (params? true) inputs
      some (.event name inputs (← Json.required? Json.bool? anonymous))
    | _ => none
  else if tag = "error" then
    match ← j.record? ["name", "inputs"] with
    | [name, inputs] =>
      let name ← Json.required? name? name
      some (.error name (← Json.required? (params? false) inputs))
    | _ => none
  else none

/-- Items in the order of their names; those of one name keep their order. -/
def sortByName (items : List DocumentItem) : List DocumentItem :=
  items.mergeSort fun a b => decide (a.name ≤ b.name)

/-- The inputs of the constructors among the items. -/
def constructors (items : List DocumentItem) : List (List Param) :=
  items.filterMap fun
    | .constructor inputs => some inputs
    | _ => none

def fallbacks (items : List DocumentItem) : Nat :=
  (items.filter fun | .fallback => true | _ => false).length

def receives (items : List DocumentItem) : Nat :=
  (items.filter fun | .receive => true | _ => false).length

/-- A document from its items. -/
def ofItems? (items : List DocumentItem) : Option Document :=
  if 1 < (constructors items).length || 1 < fallbacks items || 1 < receives items then none
  else some {
    constructor? := (constructors items).head?
    fallback := fallbacks items = 1
    receive := receives items = 1
    functions := sortByName (items.filter (·.isFunction))
    events := sortByName (items.filter (·.isEvent))
    errors := sortByName (items.filter (·.isError)) }

/-- A document from its text. -/
def parse? (text : String) : Option Document := do
  let j ← Json.parse? text
  if j.isKeepable Json.maxDepth then ofItems? (← (← j.items?).mapM item?) else none

end Document

end SmartAccount.Abi
