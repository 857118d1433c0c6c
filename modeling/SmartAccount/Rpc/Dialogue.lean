import SmartAccount.Retry
import SmartAccount.Rpc.Error
/-!
# Dialogues with a node

An operation on the chain is a dialogue: it sends requests one after the other, each may depend
on the answers before it, and it ends with a result. A dialogue is a value, so that what an
operation asks can be read off it for every behaviour of the node, without any node.
-/

namespace SmartAccount

/-- A request to the node. -/
structure Request where
  method : String
  /-- The parameters, or `none` for a method that has none. -/
  params : Option (List Json)

/-- What comes back for a request. -/
abbrev Answer := Except RpcError Json

/-- An operation that talks to the node and ends with an `α`. -/
inductive Dialogue (α : Type) where
  | done (result : α)
  | ask (request : Request) (next : Answer → Dialogue α)
  | wait (span : Duration) (next : Dialogue α)
  /-- A number drawn at random. -/
  | draw (next : Nat → Dialogue α)

namespace Dialogue

/-- One dialogue after another. -/
def bind {α β : Type} : Dialogue α → (α → Dialogue β) → Dialogue β
  | .done a, f => f a
  | .ask request next, f => .ask request fun answer => (next answer).bind f
  | .wait span next, f => .wait span (next.bind f)
  | .draw next, f => .draw fun n => (next n).bind f

instance : Monad Dialogue where
  pure := .done
  bind := bind

/-- A node: how it answers a request, and what it is afterwards. -/
abbrev Node (σ : Type) := Request → σ → Answer × σ

/-- What a dialogue with a node comes to. -/
structure Transcript (σ α : Type) where
  result : α
  /-- The requests in the order they were sent. -/
  requests : List Request
  /-- How long the dialogue waited in all. -/
  waited : Duration
  /-- The node after the last request. -/
  node : σ

/-- A dialogue with a node, in which every number drawn is zero. -/
def run {σ α : Type} (node : Node σ) : Dialogue α → σ → Transcript σ α
  | .done a, s => ⟨a, [], 0, s⟩
  | .ask request next, s =>
    let (answer, s') := node request s
    let rest := (next answer).run node s'
    { rest with requests := request :: rest.requests }
  | .wait span next, s =>
    let rest := next.run node s
    { rest with waited := span + rest.waited }
  | .draw next, s => (next 0).run node s

/-- A node that gives its answers in order, whatever it is asked, and `last` when they are used
up. -/
def queue (last : Answer) : Node (List Answer)
  | _, [] => (last, [])
  | _, answer :: rest => (answer, rest)

end Dialogue

/-- A dialogue that may fail. -/
abbrev Exchange := ExceptT ProviderError Dialogue

namespace Exchange

/-- One request, whose answer is read as an `α`. -/
def request {α : Type} (method : String) (params : Option (List Json))
    (read : Json → Option α) : Exchange α :=
  .mk (.ask ⟨method, params⟩ fun answer => .done (match answer with
    | .error e => .error (.rpc e)
    | .ok value =>
      match read value with
      | some a => .ok a
      | none => .error (.rpc (.malformed value.compact))))

end Exchange

end SmartAccount
