import SmartAccount.Contract.Access
import SmartAccount.Digest.Rlp
import SmartAccount.Signer.Signature
/-!
# Sending transactions

Whoever holds a key completes a transaction with what the node knows, signs it and sends it
whole. Whoever holds none cannot send, because nobody is there to send it from.
-/

namespace SmartAccount

open Contract

/-- Who sends transactions. -/
inductive Sender where
  | nobody
  | holder (key : PrivateKey)

/-- What the client says where there is nobody to send from. -/
def Sender.missing : String := "missing properties: [(\"NonceManager\", [\"from\"])]"

/-- The fees that are offered for the gas of a transaction. -/
structure Fees where
  priority : Nat
  total : Nat

namespace Fees

/-- The middle of the tips that were paid, one at least. -/
def medianTip (tips : List Nat) : Nat :=
  let paid := (tips.filter (0 < ·)).mergeSort
  let middle := paid.length / 2
  let median :=
    if paid.length % 2 = 0 then (paid.getD (middle - 1) 0 + paid.getD middle 0) / 2
    else paid.getD middle 0
  max median 1

/-- The fees for the base fee of the latest block and for tips that were paid: room for the base
fee to double. -/
def estimate (baseFee : Nat) (tips : List Nat) : Fees :=
  let tip := medianTip tips
  ⟨tip, 2 * baseFee + tip⟩

/-- The fees from the history that the node reports. The last base fee in it is that of the block
to come, the one before it that of the latest block. -/
def ofHistory? (j : Json) : Option Fees := do
  let baseFees ← (← (← j.get? "baseFeePerGas").items?).mapM (Json.bits? 128)
  let latest ← baseFees.reverse[1]?
  let rewards ← ((j.get? "reward" >>= Json.items?).getD []).mapM Json.items?
  let tips ← (rewards.filterMap List.head?).mapM (Json.bits? 128)
  return estimate latest.toNat (tips.map (·.toNat))

end Fees

/-- A transaction with everything that its signature covers. -/
structure FilledTransaction where
  chainId : Nat
  nonce : Nat
  fees : Fees
  gas : Nat
  transaction : Transaction

namespace FilledTransaction

/-- The items that are signed. -/
def items (t : FilledTransaction) : List Rlp :=
  [.nat t.chainId, .nat t.nonce, .nat t.fees.priority, .nat t.fees.total, .nat t.gas,
    .bytes t.transaction.recipient.bytes, .nat (t.transaction.value.getD 0).toNat,
    .bytes t.transaction.input, .list []]

/-- A transaction of the second type with the given items. -/
def envelope (items : List Rlp) : Bytes := 2 :: (Rlp.list items).encode

/-- The hash that is signed. -/
def signingHash (t : FilledTransaction) : Hash := Hash.of (envelope t.items)

/-- The transaction with its signature, as it is sent. -/
def signed (t : FilledTransaction) (s : Signature) : Bytes :=
  envelope (t.items ++ [.nat (if s.isOdd then 1 else 0), .nat s.r, .nat s.s])

end FilledTransaction

namespace Sender

/-- Completes a transaction from an address with what the node says. -/
def fill (from_ : Address) (t : Transaction) : Exchange FilledTransaction := do
  let chainId ← Exchange.request "eth_chainId" none (Json.bits? 64)
  let nonce ← Exchange.request "eth_getTransactionCount"
    (some [.address from_, .string "pending"]) (Json.bits? 64)
  let fees ← Exchange.request "eth_feeHistory" none Fees.ofHistory?
  let call := ("from", Json.address from_) :: carriage t.recipient t.input
    ++ t.value.toList.map fun v => ("value", Json.quantity v)
  let gas ← Exchange.request "eth_estimateGas" (some [.record call]) (Json.bits? 64)
  return ⟨chainId.toNat, nonce.toNat, fees, gas.toNat, t⟩

/-- Sends a transaction. The answer is its hash. -/
def send (sender : Sender) (t : Transaction) : Exchange Hash :=
  match sender with
  | .nobody => throw (.rpc (.usage missing))
  | .holder key => do
    let filled ← fill key.address t
    match key.sign? filled.signingHash with
    | none => throw (.other "no signature")
    | some s =>
      Exchange.request "eth_sendRawTransaction" (some [.hex (filled.signed s)]) Json.hash?

end Sender

end SmartAccount
