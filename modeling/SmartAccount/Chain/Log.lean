import SmartAccount.Chain.Block
import SmartAccount.Json.Record
/-!
# Logs

A log as the node reports it: what a contract emitted, and where on the chain it stands. A filter
says which logs are wanted.
-/

namespace SmartAccount

/-- A log with its place on the chain, as far as it has one. -/
structure Log where
  address : Address
  topics : List Hash
  data : Bytes
  blockNumber : Option BlockNumber
  blockHash : Option Hash
  transactionHash : Option Hash
  logIndex : Option (BitVec 64)
  deriving DecidableEq

namespace Log

/-- A field that may be `null` but must be there. -/
def present? {α : Type} (read : Json → Option α) (value : Option Json) : Option (Option α) :=
  value.bind (Json.nullable? read)

/-- A field that may be `null` or missing. -/
def absent? {α : Type} (read : Json → Option α) : Option Json → Option (Option α) :=
  Json.defaulted? none (Json.nullable? read)

/-- A log from an answer of the node: an object with its place among the members. The block
number and the two indexes have to be there, at least as `null`. -/
def ofJson? (j : Json) : Option Log := do
  let fields ← Json.members? ["address", "topics", "data", "blockHash", "blockNumber",
    "blockTimestamp", "transactionHash", "transactionIndex", "logIndex", "removed"] j
  match fields with
  | [address, topics, data, blockHash, blockNumber, timestamp, transactionHash, transactionIndex,
      logIndex, removed] =>
    let _ ← absent? (Json.bits? 64) timestamp
    let _ ← present? (Json.bits? 64) transactionIndex
    let _ ← Json.defaulted? false Json.bool? removed
    return {
      address := ← Json.required? Json.address? address
      topics := ← Json.required? (fun t => t.items? >>= fun items => items.mapM Json.hash?) topics
      data := ← Json.required? Json.bytes? data
      blockNumber := ← present? (Json.bits? 64) blockNumber
      blockHash := ← absent? Json.hash? blockHash
      transactionHash := ← absent? Json.hash? transactionHash
      logIndex := ← present? (Json.bits? 64) logIndex }
  | _ => none

end Log

/-- Which logs are wanted. -/
structure Filter where
  /-- The contract that emitted them, if it matters. -/
  address : Option Address := none
  /-- What the first topic may be; no entry means that it does not matter. -/
  firstTopics : List Hash := []
  first : Option BlockNumber := none
  last : Option BlockNumber := none
  deriving DecidableEq

namespace Filter

/-- The topics of a filter as a parameter: a single topic stands for itself. -/
def topicsJson (topics : List Hash) : Json :=
  match topics with
  | [] => .array []
  | [topic] => .array [.word topic]
  | _ => .array [.array (topics.map .word)]

/-- A filter as the parameter of a request. -/
def toJson (f : Filter) : Json :=
  .record ((f.address.toList.map fun a => ("address", Json.address a))
    ++ (f.first.toList.map fun n => ("fromBlock", Json.quantity n))
    ++ (f.last.toList.map fun n => ("toBlock", Json.quantity n))
    ++ [("topics", topicsJson f.firstTopics)])

/-- Whether a log lies in the blocks of a filter; a log without a block lies in all. -/
def covers (f : Filter) (log : Log) : Bool :=
  match log.blockNumber with
  | none => true
  | some n => f.first.all (· ≤ n) && f.last.all (n ≤ ·)

end Filter

end SmartAccount
