import SmartAccount.Chain.Log
import SmartAccount.Contract.Document
/-!
# Sightings

A sighting is an event that was read from a log, together with the place of the log on the
chain.
-/

namespace SmartAccount

open Contract

/-- An event with its place on the chain, as far as it has one. -/
structure Sighting where
  occurrence : Occurrence
  address : Address
  blockNumber : Option BlockNumber
  blockHash : Option Hash
  transactionHash : Option Hash
  logIndex : Option (BitVec 64)

namespace Sighting

/-- The sighting of one of the events that a log holds. The place is that of the log. -/
def ofLog (events : List Event) (log : Log) : Except Abi.DecodeError Sighting := do
  let occurrence ← Occurrence.decode events log.topics log.data
  return ⟨occurrence, log.address, log.blockNumber, log.blockHash, log.transactionHash,
    log.logIndex⟩

/-- The line that reports a sighting: the event, the contract, and of its place what is known. -/
def display (s : Sighting) : String :=
  s.occurrence.display ++ "    Contract: " ++ Hex.text s.address.bytes
    ++ (s.blockNumber.map fun n => "    Block: " ++ Numeral.decimal n.toNat).getD ""
    ++ (s.transactionHash.map fun h => "    Transaction: " ++ h.text).getD ""

end Sighting

end SmartAccount
