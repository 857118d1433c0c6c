import SmartAccount.Watcher.Query
/-!
# Watching the events of a contract

A watch follows the head of the chain. It asks for the head, fetches the events of the blocks
that are new, puts them one after the other into a channel of limited capacity, and sleeps until
the next look. It ends when it is told to stop, when nobody can receive any more, or when a
request has failed for good.

The watch runs beside its receiver and its owner, and they may act at any time. So it is a
transition system: `Watch.step?` says for every action whether it is possible in a state and
what follows. Each phase is a point where the watch waits for something; what else can happen
there, and in which order, is left to whoever drives it.
-/

namespace SmartAccount

/-- The receiving end of a channel. -/
inductive Receiver where
  | open
  /-- Takes no more, but what is in the channel can still be received. -/
  | closed
  | dropped
  deriving DecidableEq

/-- A channel that holds at most `capacity` events. -/
structure Channel where
  capacity : Nat
  buffer : List Sighting := []
  receiver : Receiver := .open

namespace Channel

/-- Whether one more event can be put in now. -/
def hasRoom (c : Channel) : Bool := c.receiver = .open && c.buffer.length < c.capacity

/-- Whether no event can ever be put in again. -/
def isClosed (c : Channel) : Bool := c.receiver ≠ .open

/-- What is said where a channel is asked for that can hold nothing. -/
def noRoomMessage : String := "mpsc bounded channel requires buffer > 0"

end Channel

/-- How a watch ends. -/
inductive Ending (ε : Type) where
  /-- It was told to stop, or the receiver was gone. -/
  | stopped
  | failed (error : ε)
  /-- After a failure it could not go on. -/
  | brokenDown (cause : Retry.BreakDown)

/-- Why a watch failed. -/
inductive Failure (ε : Type) where
  /-- A request failed for good. -/
  | request (error : ε)
  /-- After a failure it could not go on. -/
  | brokenDown (cause : Retry.BreakDown)

/-- What an end says to the owner of the watch. -/
def Ending.result {ε : Type} : Ending ε → Except (Failure ε) Unit
  | .stopped => .ok ()
  | .failed e => .error (.request e)
  | .brokenDown cause => .error (.brokenDown cause)

namespace Watch

/-- What a watch waits for. -/
inductive Phase (ε : Type) where
  /-- The answer to a request for the head. -/
  | readingHead (progress : Retry.Progress)
  /-- The end of the wait before the head is asked for again. -/
  | retryingHead (wait : Duration) (progress : Retry.Progress)
  /-- The answer to a request for logs, on the way to the block `q.last`. -/
  | readingLogs (q : Query)
  /-- The end of the wait before a stretch is asked for again. -/
  | retryingLogs (wait : Duration) (q : Query)
  /-- The end of the wait before breaking down. Only a query also stops there for a receiver
  that is gone. -/
  | failing (wait : Duration) (inQuery : Bool) (cause : Retry.BreakDown)
  /-- Room in the channel for the first of the events, which lead up to the block `head`. -/
  | sending (event : Sighting) (rest : List Sighting) (head : BlockNumber)
  /-- The time for the next look at the head. -/
  | polling
  | ended (ending : Ending ε)

end Watch

/-- A watch with its channel. -/
structure Watch (ε : Type) where
  /-- The first block whose events have not been delivered. -/
  nextBlock : BlockNumber
  phase : Watch.Phase ε
  channel : Channel
  /-- Whether it was told to stop. -/
  stopping : Bool := false

namespace Watch

/-- What can happen to a watch. -/
inductive Action (ε : Type) where
  /-- The answer about the head comes; `draw` is the number drawn if it is a failure. -/
  | headAnswer (answer : Except ε BlockNumber) (draw : Nat)
  /-- The answer about logs comes. -/
  | logsAnswer (answer : Except ε (List Log)) (draw : Nat)
  /-- The time of the current wait is over. -/
  | elapse
  /-- An event goes into the channel. -/
  | send
  /-- An event cannot be sent as nobody can receive it. -/
  | refuse
  /-- The watch notices that it was told to stop. -/
  | stop
  /-- The watch notices that nobody can receive any more. -/
  | hangUp
  /-- The owner tells it to stop, or lets go of it. -/
  | tellStop
  /-- The receiver takes an event out of the channel. -/
  | receive
  | closeReceiver
  | dropReceiver

/-- What notices call the request for the head. -/
def headPurpose : String := "fetch block number"

/-- The watch goes on to the next look at the head. -/
def lookAtHead {ε : Type} : Phase ε := .readingHead {}

/-- The phase once the events up to the block `head` are known. -/
def deliver {ε : Type} (w : Watch ε) (events : List Sighting) (head : BlockNumber) : Watch ε :=
  match events with
  | [] => { w with nextBlock := head + 1, phase := .polling }
  | event :: rest => { w with phase := .sending event rest head }

/-- The phase once a failure has made it impossible to go on. -/
def breakingDown {ε : Type} (inQuery : Bool) (cause : Retry.BreakDown) :
    (wait? : Option Duration) → Phase ε
  | some wait => .failing wait inQuery cause
  | none => .ended (.brokenDown cause)

/-- Whether the watch notices in this phase that nobody can receive any more. While it is
fetching events it does not look. -/
def Phase.heedsReceiver {ε : Type} : Phase ε → Bool
  | .readingHead _ => true
  | .retryingHead _ _ => true
  | .failing _ inQuery _ => !inQuery
  | .polling => true
  | _ => false

/-- Whether a phase is the end. -/
def Phase.isEnded {ε : Type} : Phase ε → Bool
  | .ended _ => true
  | _ => false

/-- How long a phase waits if nothing else happens; `none` if time alone does not end it. -/
def Phase.span? {ε : Type} (settings : WatchSettings) : Phase ε → Option Duration
  | .retryingHead wait _ => some wait
  | .retryingLogs wait _ => some wait
  | .failing wait _ _ => some wait
  | .polling => some settings.pollInterval
  | _ => none

/-- What follows the answer about the head. -/
def afterHead {ε : Type} (settings : WatchSettings) (w : Watch ε) (progress : Retry.Progress)
    (draw : Nat) : Except ε BlockNumber → Watch ε
  | .ok head =>
    if w.nextBlock ≤ head then
      { w with phase := .readingLogs { first := w.nextBlock, last := head } }
    else { w with phase := .polling }
  | .error e =>
    match progress.afterFailure settings.retry draw with
    | .giveUp => { w with phase := .ended (.failed e) }
    | .again wait next => { w with phase := .retryingHead wait next }
    | .breakDown wait? cause => { w with phase := breakingDown false cause wait? }

/-- What follows the answer about logs. -/
def afterLogs {ε : Type} (settings : WatchSettings) (subject : Subject) (w : Watch ε) (q : Query)
    (draw : Nat) (answer : Except ε (List Log)) : Watch ε :=
  match q.afterAnswer settings subject draw answer with
  | .onward next => { w with phase := .readingLogs next }
  | .again wait next => { w with phase := .retryingLogs wait next }
  | .done events => w.deliver events q.last
  | .failed e => { w with phase := .ended (.failed e) }
  | .breakDown wait? cause => { w with phase := breakingDown true cause wait? }

/-- What follows the end of a wait. -/
def afterWait {ε : Type} : Phase ε → Option (Phase ε)
  | .retryingHead _ progress => some (.readingHead progress)
  | .retryingLogs _ q => some (.readingLogs q)
  | .failing _ _ cause => some (.ended (.brokenDown cause))
  | .polling => some lookAtHead
  | _ => none

/-- The state after an action, or `none` where the action is not possible. -/
def step? {ε : Type} (settings : WatchSettings) (subject : Subject) (w : Watch ε) :
    Action ε → Option (Watch ε)
  | .headAnswer answer draw =>
    match w.phase with
    | .readingHead progress => some (w.afterHead settings progress draw answer)
    | _ => none
  | .logsAnswer answer draw =>
    match w.phase with
    | .readingLogs q => some (w.afterLogs settings subject q draw answer)
    | _ => none
  | .elapse => (afterWait w.phase).map fun phase => { w with phase := phase }
  | .send =>
    match w.phase with
    | .sending event rest head =>
      if w.channel.hasRoom then
        let channel := { w.channel with buffer := w.channel.buffer ++ [event] }
        some (deliver { w with channel := channel } rest head)
      else none
    | _ => none
  | .refuse =>
    match w.phase with
    | .sending _ _ _ =>
      if w.channel.isClosed then some { w with phase := .ended .stopped } else none
    | _ => none
  | .stop =>
    if w.stopping && !w.phase.isEnded then some { w with phase := .ended .stopped } else none
  | .hangUp =>
    if w.channel.isClosed && w.phase.heedsReceiver then some { w with phase := .ended .stopped }
    else none
  | .tellStop => some { w with stopping := true }
  | .receive =>
    match w.channel.buffer with
    | [] => none
    | _ :: rest =>
      if w.channel.receiver = .dropped then none
      else some { w with channel := { w.channel with buffer := rest } }
  | .closeReceiver =>
    if w.channel.receiver = .open then
      some { w with channel := { w.channel with receiver := .closed } }
    else none
  | .dropReceiver =>
    some { w with channel := { w.channel with receiver := .dropped, buffer := [] } }

/-- What the owner hears of a watch that he told to stop, once it has ended. -/
def result? {ε : Type} (w : Watch ε) : Option (Except (Failure ε) Unit) :=
  match w.phase with
  | .ended ending => some ending.result
  | _ => none

/-- What a receiver finds that looks for the next event. -/
inductive Finding where
  | event (event : Sighting)
  /-- There is none yet. -/
  | nothing
  /-- There will be none any more. -/
  | closed

/-- The first event in the channel; if there is none, whether one can still come. -/
def finding {ε : Type} (w : Watch ε) : Finding :=
  match w.channel.buffer with
  | event :: _ => .event event
  | [] => if w.phase.isEnded || w.channel.receiver = .closed then .closed else .nothing

/-- What the operator reads about an action. -/
def notices {ε : Type} (settings : WatchSettings) (subject : Subject) (shown : ε → String)
    (w : Watch ε) : Action ε → List Notice
  | .headAnswer (.error e) _ =>
    match w.phase with
    | .readingHead progress => [progress.notice settings.retry headPurpose (shown e)]
    | _ => []
  | .logsAnswer answer _ =>
    match w.phase with
    | .readingLogs q => q.notices settings subject shown answer
    | _ => []
  | .refuse => [⟨.debug, "Event receiver dropped, stopping " ++ subject.eventsName ++ " watch"⟩]
  | _ => []

/-- A watch of the blocks from `nextBlock` on, which is about to ask for the head. -/
def start {ε : Type} (nextBlock : BlockNumber) (capacity : Nat) : Watch ε where
  nextBlock := nextBlock
  phase := lookAtHead
  channel := { capacity := capacity }

/-- Where a watch starts that is not told where: after the head of the chain. -/
def blockAfter (head : BlockNumber) : BlockNumber := head + 1

/-- What the operator reads when a watch starts. -/
def startNotice (subject : Subject) (nextBlock : BlockNumber) : Notice where
  level := .info
  text := "Watching " ++ subject.eventsName ++ " events of " ++ Hex.text subject.address.bytes
    ++ " from block " ++ Numeral.decimal nextBlock.toNat

end Watch

end SmartAccount
