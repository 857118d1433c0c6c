import SmartAccount.Watcher.Watch
/-!
# Rehearsing a watch

A rehearsal drives a watch over a chain whose answers are known in advance, on a clock of its
own: requests are answered at once, and time passes only when it is made to. Of several things
that could happen at the same moment, being told to stop comes first, then the loss of the
receiver, then everything else.
-/

namespace SmartAccount

/-- The clock of a rehearsal. Its timer reaches thirty years ahead, and a longer wait ends there.
That is an affair of this clock alone: what is proved about runs holds on every clock. -/
def Clock.rehearsal : Clock where
  endOfWait now span := now + min span (.ofSeconds (30 * 365 * 86400))

/-- A question that a watch puts to the chain. -/
inductive Question where
  | head
  | logs (filter : Filter)

/-- A chain with known answers: what it says about the head and about logs the `n`-th time,
counted from zero. -/
structure Chain.Script (ε : Type) where
  head : (n : Nat) → Except ε BlockNumber
  logs : (n : Nat) → Filter → Except ε (List Log)

/-- What happens in front of the chain: questions with their numbers and times, and notices. -/
structure Chain.Record where
  now : Duration := 0
  headCount : Nat := 0
  logsCount : Nat := 0
  questions : List (Nat × Duration × Question) := []
  notices : List Notice := []

namespace Chain.Record

/-- Asks the chain for its head. -/
def askHead {ε : Type} (script : Script ε) (r : Record) : Except ε BlockNumber × Record :=
  (script.head r.headCount,
    { r with headCount := r.headCount + 1
             questions := r.questions ++ [(r.headCount, r.now, .head)] })

/-- Asks the chain for logs. -/
def askLogs {ε : Type} (script : Script ε) (filter : Filter) (r : Record) :
    Except ε (List Log) × Record :=
  (script.logs r.logsCount filter,
    { r with logsCount := r.logsCount + 1
             questions := r.questions ++ [(r.logsCount, r.now, .logs filter)] })

def tell (notices : List Notice) (r : Record) : Record :=
  { r with notices := r.notices ++ notices }

end Chain.Record

/-- A query in a rehearsal; every number drawn is zero. -/
def Query.rehearse {ε : Type} (script : Chain.Script ε) (shown : ε → String)
    (settings : WatchSettings) (subject : Subject) (first last : BlockNumber) :
    Query.Outcome ε × Chain.Record :=
  let means : Query.Means (StateM Chain.Record) ε :=
    { ask := fun filter r => r.askLogs script filter
      wait := fun span r => ((), { r with now := Clock.rehearsal.endOfWait r.now span })
      draw := pure 0
      tell := fun notices r => ((), r.tell notices)
      shown := shown }
  (Query.runRange means settings subject first last).run {}

/-- A watch in a rehearsal. -/
structure Rehearsal (ε : Type) where
  watch : Watch ε
  record : Chain.Record
  /-- When the current wait ends. -/
  deadline : Option Duration := none

namespace Rehearsal

variable {ε : Type}

/-- Takes an action if it is possible. A wait that begins with it is timed. -/
def act? (shown : ε → String) (settings : WatchSettings) (subject : Subject) (r : Rehearsal ε)
    (action : Watch.Action ε) : Option (Rehearsal ε) := do
  let watch ← r.watch.step? settings subject action
  let record := r.record.tell (r.watch.notices settings subject shown action)
  let deadline := match action with
    | .tellStop => r.deadline
    | .receive => r.deadline
    | .closeReceiver => r.deadline
    | .dropReceiver => r.deadline
    | _ => (watch.phase.span? settings).map (Clock.rehearsal.endOfWait record.now)
  return ⟨watch, record, deadline⟩

/-- What the watch does next without any time passing, if there is something it can do. -/
def advance? (script : Chain.Script ε) (shown : ε → String) (settings : WatchSettings)
    (subject : Subject) (r : Rehearsal ε) : Option (Rehearsal ε) :=
  let act (r : Rehearsal ε) := r.act? shown settings subject
  act r .stop <|> act r .hangUp <|>
    match r.watch.phase with
    | .readingHead _ =>
      let (answer, record) := r.record.askHead script
      act { r with record := record } (.headAnswer answer 0)
    | .readingLogs q =>
      let (answer, record) := r.record.askLogs script (q.filter settings subject)
      act { r with record := record } (.logsAnswer answer 0)
    | .sending _ _ _ => act r .refuse <|> act r .send
    | _ => if r.deadline.any (· ≤ r.record.now) then act r .elapse else none

/-- Everything that the watch can do without any time passing, as far as `fuel` steps go. -/
def settle (script : Chain.Script ε) (shown : ε → String) (settings : WatchSettings)
    (subject : Subject) : (fuel : Nat) → Rehearsal ε → Rehearsal ε
  | 0, r => r
  | fuel + 1, r =>
    match r.advance? script shown settings subject with
    | none => r
    | some next => next.settle script shown settings subject fuel

/-- Lets time pass up to a moment: each wait that ends before it is followed by what it
leads to. -/
def passUntil (script : Chain.Script ε) (shown : ε → String) (settings : WatchSettings)
    (subject : Subject) (moment : Duration) : (fuel : Nat) → Rehearsal ε → Rehearsal ε
  | 0, r => r
  | fuel + 1, r =>
    let r := r.settle script shown settings subject (fuel + 1)
    match r.deadline with
    | some deadline =>
      if deadline ≤ moment then
        { r with record := { r.record with now := deadline } }.passUntil script shown settings
          subject moment fuel
      else { r with record := { r.record with now := moment } }
    | none => { r with record := { r.record with now := moment } }

/-- The start of a watch, which looks at the head of the chain first if it is not told from
which block to watch. The look is not repeated if it fails. -/
def start (script : Chain.Script ε) (subject : Subject) (from? : Option BlockNumber)
    (capacity : Nat) : Except ε (Rehearsal ε) × Chain.Record :=
  let (first, record) : Except ε BlockNumber × Chain.Record := match from? with
    | some block => (.ok block, {})
    | none =>
      let (head, record) := Chain.Record.askHead script {}
      (head.map Watch.blockAfter, record)
  match first with
  | .error e => (.error e, record)
  | .ok block =>
    let record := record.tell [Watch.startNotice subject block]
    (.ok ⟨Watch.start block capacity, record, none⟩, record)

end Rehearsal

end SmartAccount
