import SmartAccount.Chain.Log
import SmartAccount.Rpc.Dialogue
/-!
# Reading the chain

The questions about the chain itself: its head, its id, balances, code and logs.
-/

namespace SmartAccount.Chain

/-- The block that is meant where none is named. -/
def blockParam (block : Option BlockId) : Json := (block.getD (.tag "latest")).toJson

def headNumber : Exchange BlockNumber := .request "eth_blockNumber" none (Json.bits? 64)

def chainId : Exchange (BitVec 64) := .request "eth_chainId" none (Json.bits? 64)

def balance (address : Address) (block : Option BlockId) : Exchange Word :=
  .request "eth_getBalance" (some [.address address, blockParam block]) (Json.bits? 256)

def code (address : Address) (block : Option BlockId) : Exchange Bytes :=
  .request "eth_getCode" (some [.address address, blockParam block]) Json.bytes?

def logs (filter : Filter) : Exchange (List Log) :=
  .request "eth_getLogs" (some [filter.toJson]) fun j =>
    j.items? >>= fun items => items.mapM Log.ofJson?

end SmartAccount.Chain
