import SmartAccount.Transport.Stack
/-!
# The layers by themselves

Each layer wraps the service below it. The timeout layer is the lowest: it waits for the answer of
the server, but not for longer than it may. The metric layer counts what passes it, and the retry
layer asks the layer below again. `layered` puts them together. What they do shows in the state of
the client, which holds its clock, its counts and the attempts that were made.
-/

namespace SmartAccount.Transport

/-! ## Looking after an attempt -/

/-- The answer of an attempt, if it is there when a time has passed since the attempt started. -/
def Delivery.answered? (elapsed : Duration) : Delivery → Option Delivered
  | .after delay outcome => if delay ≤ elapsed then some outcome else none
  | .never => none

/-- What the client finds that looks after an attempt when a time has passed since it started: it
looks for the answer first, then at the clock. -/
def Delivery.poll? (timeout elapsed : Duration) (d : Delivery) : Option Delivered :=
  d.answered? elapsed <|> if timeout ≤ elapsed then some (.error (.usage timeoutText)) else none

/-- An attempt that was made. -/
structure Trip where
  started : Duration
  ended : Duration
  outcome : Delivered

/-- An attempt that starts at `now`, for a client that gives up after `timeout`. -/
def Delivery.trip (timeout now : Duration) (d : Delivery) : Trip where
  started := now
  ended := now + d.span timeout
  outcome := d.within timeout

/-! ## The layers -/

/-- A client that makes a call. -/
structure Client where
  now : Duration := 0
  tally : Metrics.Tally := []
  /-- The attempts, the oldest first. -/
  trips : List Trip := []

/-- What carries out an attempt of a number. -/
abbrev Service := Nat → StateM Client Delivered

/-- Gives up each attempt that has no answer when `timeout` has passed since it started. -/
def timeoutLayer (timeout : Duration) (server : Nat → Delivery) : Service := fun k => do
  let c ← get
  let trip := (server k).trip timeout c.now
  set { c with now := trip.ended, trips := c.trips ++ [trip] }
  return trip.outcome

/-- Counts each attempt of a method when it starts and when it has ended. -/
def metricLayer (method : String) (inner : Service) : Service := fun k => do
  modify fun c => { c with tally := c.tally.start method }
  let outcome ← inner k
  modify fun c => { c with tally := c.tally.finish method outcome }
  return outcome

/-- Makes attempts until one settles the call or no retry is left, with a pause before each
retry. -/
def retryLayer (retryable : RpcError → Bool) (pause : RpcError → Duration) (inner : Service) :
    Means (StateM Client) where
  attempt := inner
  pause e := modify fun c => { c with now := c.now + pause e }
  retryable := retryable

/-- The layers on top of each other, in the order in which a request meets them. -/
def layered (retryable : RpcError → Bool) (pause : RpcError → Duration) (timeout : Duration)
    (method : String) (server : Nat → Delivery) : Means (StateM Client) :=
  retryLayer retryable pause (metricLayer method (timeoutLayer timeout server))

end SmartAccount.Transport
