import SmartAccount.Transport.Metrics
/-!
# Requests side by side in the metric layer

Any number of requests pass the metric layer at the same time, also through copies of it: all of
them count in one place. For each request the layer keeps the method until the request ends. It ends
with an outcome, or its caller lets go of it before there is one.

`Layer.step?` says for every action whether it is possible and what follows. What can happen next,
and to which request, is left open, so that a course of actions is any interleaving of the requests.
-/

namespace SmartAccount.Metrics

/-- Where a request stands that entered the layer. -/
inductive Stage where
  /-- There is no outcome yet, and the caller waits for one. -/
  | inFlight
  | ended (outcome : Delivered)
  /-- The caller let go of it before it ended. -/
  | dropped

def Stage.isInFlight : Stage → Bool
  | .inFlight => true
  | _ => false

def Stage.isDropped : Stage → Bool
  | .dropped => true
  | _ => false

/-- What the layer knows of a request. -/
structure Session where
  method : String
  stage : Stage

/-- The counts, and the requests in the order in which they entered. -/
structure Layer where
  tally : Tally := []
  sessions : List Session := []

/-- What can happen in the layer. A request has the number of those that entered before it. -/
inductive Action where
  | start (method : String)
  | finish (number : Nat) (outcome : Delivered)
  | drop (number : Nat)

namespace Layer

/-- The method of a request that is in flight. -/
def inFlight? (l : Layer) (number : Nat) : Option String :=
  match l.sessions[number]? with
  | some ⟨method, .inFlight⟩ => some method
  | _ => none

/-- The request with a number comes to a stage. -/
def settle (l : Layer) (number : Nat) (method : String) (stage : Stage) (event : Event) :
    Layer where
  tally := l.tally.after event
  sessions := l.sessions.set number ⟨method, stage⟩

/-- The layer after an action, or `none` where the action is not possible: only what is in flight
can end or be dropped. -/
def step? (l : Layer) : Action → Option Layer
  | .start method => some ⟨l.tally.after (.started method), l.sessions ++ [⟨method, .inFlight⟩]⟩
  | .finish number outcome =>
    (l.inFlight? number).map fun method =>
      l.settle number method (.ended outcome) (.finished method outcome)
  | .drop number =>
    (l.inFlight? number).map fun method => l.settle number method .dropped (.dropped method)

/-- The layer after a course of actions, or `none` where one of them is not possible. -/
def run? (l : Layer) : List Action → Option Layer
  | [] => some l
  | action :: rest => l.step? action >>= fun next => next.run? rest

/-- How many requests of a method are in flight. -/
def inFlight (l : Layer) (method : String) : Nat :=
  l.sessions.countP fun s => s.method = method && s.stage.isInFlight

/-- How many requests of a method were dropped. -/
def dropped (l : Layer) (method : String) : Nat :=
  l.sessions.countP fun s => s.method = method && s.stage.isDropped

end Layer

end SmartAccount.Metrics
