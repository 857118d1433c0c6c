import Mathlib.Algebra.Group.Nat.Defs
import SmartAccount.Watcher.Watch
/-!
# Runs of a watch

`Watch.step?` says what one action does. This file says the same as a relation, `Watch.Step`,
with one constructor for each action and the guard of the action as its premise, so that a proof
about all steps is a case analysis and never opens the function (`step?_eq_some_iff`).

A *run* strings steps together. What the environment may do in it is a parameter, `allowed`, since
some facts hold whatever the node answers and others only of a node that answers truly. The history
of a run keeps every action with the state before it, and what an observer sees of the run - the
heads that were reported, the events that went into the channel and those that came out - is read
off the history.

The one fact that needs no assumption about anybody is proved here: the channel neither loses,
repeats nor reorders what goes through it (`Run.channelInv`).
-/

namespace SmartAccount.Watch

variable {ε : Type}

/-- The steps of a watch, each under the condition that makes it possible. -/
inductive Step (settings : WatchSettings) (subject : Subject) (w : Watch ε) :
    Action ε → Watch ε → Prop where
  | headAnswer {progress : Retry.Progress} {answer : Except ε BlockNumber} {draw : Nat}
      (hphase : w.phase = .readingHead progress) :
      Step settings subject w (.headAnswer answer draw)
        (w.afterHead settings progress draw answer)
  | logsAnswer {q : Query} {answer : Except ε (List Log)} {draw : Nat}
      (hphase : w.phase = .readingLogs q) :
      Step settings subject w (.logsAnswer answer draw)
        (w.afterLogs settings subject q draw answer)
  | elapse {phase : Phase ε} (hwait : afterWait w.phase = some phase) :
      Step settings subject w .elapse { w with phase := phase }
  | send {event : Sighting} {rest : List Sighting} {head : BlockNumber}
      (hphase : w.phase = .sending event rest head) (hroom : w.channel.hasRoom = true) :
      Step settings subject w .send
        (deliver { w with channel := { w.channel with buffer := w.channel.buffer ++ [event] } }
          rest head)
  | refuse {event : Sighting} {rest : List Sighting} {head : BlockNumber}
      (hphase : w.phase = .sending event rest head) (hclosed : w.channel.isClosed = true) :
      Step settings subject w .refuse { w with phase := .ended .stopped }
  | stop (hstop : w.stopping = true) (hlive : w.phase.isEnded = false) :
      Step settings subject w .stop { w with phase := .ended .stopped }
  | hangUp (hclosed : w.channel.isClosed = true) (hheeds : w.phase.heedsReceiver = true) :
      Step settings subject w .hangUp { w with phase := .ended .stopped }
  | tellStop : Step settings subject w .tellStop { w with stopping := true }
  | receive {event : Sighting} {rest : List Sighting} (hbuffer : w.channel.buffer = event :: rest)
      (hopen : w.channel.receiver ≠ .dropped) :
      Step settings subject w .receive { w with channel := { w.channel with buffer := rest } }
  | closeReceiver (hopen : w.channel.receiver = .open) :
      Step settings subject w .closeReceiver
        { w with channel := { w.channel with receiver := .closed } }
  | dropReceiver :
      Step settings subject w .dropReceiver
        { w with channel := { w.channel with receiver := .dropped, buffer := [] } }

/-- What the function says of an action is what the relation says. -/
theorem step?_eq_some_iff {settings : WatchSettings} {subject : Subject} {w next : Watch ε}
    {action : Action ε} :
    w.step? settings subject action = some next ↔ Step settings subject w action next := by
  constructor
  · intro h
    cases action with
    | headAnswer answer draw =>
      simp only [step?] at h
      split at h
      next progress hphase =>
        cases h
        exact .headAnswer hphase
      next => cases h
    | logsAnswer answer draw =>
      simp only [step?] at h
      split at h
      next q hphase =>
        cases h
        exact .logsAnswer hphase
      next => cases h
    | elapse =>
      simp only [step?, Option.map_eq_some_iff] at h
      obtain ⟨phase, hwait, rfl⟩ := h
      exact .elapse hwait
    | send =>
      simp only [step?] at h
      split at h
      next event rest head hphase =>
        split at h
        next hroom =>
          cases h
          exact .send hphase hroom
        next => cases h
      next => cases h
    | refuse =>
      simp only [step?] at h
      split at h
      next hphase =>
        split at h
        next hclosed =>
          cases h
          exact .refuse hphase hclosed
        next => cases h
      next => cases h
    | stop =>
      simp only [step?] at h
      split at h
      next hstop =>
        cases h
        simp only [Bool.and_eq_true, Bool.not_eq_true'] at hstop
        exact .stop hstop.1 hstop.2
      next => cases h
    | hangUp =>
      simp only [step?] at h
      split at h
      next hgone =>
        cases h
        simp only [Bool.and_eq_true] at hgone
        exact .hangUp hgone.1 hgone.2
      next => cases h
    | tellStop =>
      cases h
      exact .tellStop
    | receive =>
      simp only [step?] at h
      split at h
      next => cases h
      next hbuffer =>
        split at h
        next => cases h
        next hopen =>
          cases h
          exact .receive hbuffer hopen
    | closeReceiver =>
      simp only [step?] at h
      split at h
      next hopen =>
        cases h
        exact .closeReceiver hopen
      next => cases h
    | dropReceiver =>
      cases h
      exact .dropReceiver
  · intro h
    cases h with
    | headAnswer hphase => simp only [step?, hphase]
    | logsAnswer hphase => simp only [step?, hphase]
    | elapse hwait => simp only [step?, hwait, Option.map_some]
    | send hphase hroom => simp only [step?, hphase, hroom, if_true]
    | refuse hphase hclosed => simp only [step?, hphase, hclosed, if_true]
    | stop hstop hlive => simp [step?, hstop, hlive]
    | hangUp hclosed hheeds => simp [step?, hclosed, hheeds]
    | tellStop => rfl
    | receive hbuffer hopen => simp only [step?, hbuffer, hopen, if_false]
    | closeReceiver hopen => simp only [step?, hopen, if_true]
    | dropReceiver => rfl

/-- Four phases end by time alone. -/
theorem afterWait_eq_some {phase next : Phase ε} (h : afterWait phase = some next) :
    (∃ wait progress, phase = .retryingHead wait progress ∧ next = .readingHead progress)
      ∨ (∃ wait q, phase = .retryingLogs wait q ∧ next = .readingLogs q)
      ∨ (∃ wait inQuery cause, phase = .failing wait inQuery cause
        ∧ next = .ended (.brokenDown cause))
      ∨ (phase = .polling ∧ next = lookAtHead) := by
  unfold afterWait at h
  split at h
  next wait progress =>
    cases h
    exact .inl ⟨wait, progress, rfl, rfl⟩
  next wait q =>
    cases h
    exact .inr (.inl ⟨wait, q, rfl, rfl⟩)
  next wait inQuery cause =>
    cases h
    exact .inr (.inr (.inl ⟨wait, inQuery, cause, rfl, rfl⟩))
  next =>
    cases h
    exact .inr (.inr (.inr ⟨rfl, rfl⟩))
  next => cases h

/-! ## Histories -/

/-- An action of a run, with the state in which it was taken. -/
structure Moment (ε : Type) where
  before : Watch ε
  action : Action ε

namespace Moment

/-- The head that is reported, if one is. -/
def heads (m : Moment ε) : List BlockNumber :=
  match m.action with
  | .headAnswer (.ok head) _ => [head]
  | _ => []

/-- The event that goes into the channel, if one does. -/
def sent (m : Moment ε) : List Sighting :=
  match m.action, m.before.phase with
  | .send, .sending event _ _ => [event]
  | _, _ => []

/-- The event that the receiver takes out of the channel, if it takes one. -/
def received (m : Moment ε) : List Sighting :=
  match m.action with
  | .receive => m.before.channel.buffer.take 1
  | _ => []

end Moment

/-- What has happened in a run, the oldest first. -/
abbrev History (ε : Type) := List (Moment ε)

namespace History

/-- The heads that the node has reported. -/
def heads (past : History ε) : List BlockNumber := past.flatMap Moment.heads

/-- The events that have gone into the channel. -/
def sent (past : History ε) : List Sighting := past.flatMap Moment.sent

/-- The events that the receiver has taken out of the channel. -/
def received (past : History ε) : List Sighting := past.flatMap Moment.received

@[simp] theorem heads_append (past : History ε) (m : Moment ε) :
    heads (past ++ [m]) = heads past ++ m.heads := by
  simp [heads]

@[simp] theorem sent_append (past : History ε) (m : Moment ε) :
    sent (past ++ [m]) = sent past ++ m.sent := by
  simp [sent]

@[simp] theorem received_append (past : History ε) (m : Moment ε) :
    received (past ++ [m]) = received past ++ m.received := by
  simp [received]

end History

/-! ## Runs -/

/-- The runs from a state in which only allowed actions are taken: `Run … past w` says that the
state is `w` once `past` has happened. -/
inductive Run (settings : WatchSettings) (subject : Subject)
    (allowed : Watch ε → Action ε → Prop) (first : Watch ε) : History ε → Watch ε → Prop where
  | start : Run settings subject allowed first [] first
  | step {past : History ε} {w next : Watch ε}
      (run : Run settings subject allowed first past w) (action : Action ε)
      (hallowed : allowed w action)
      (hstep : w.step? settings subject action = some next) :
      Run settings subject allowed first (past ++ [⟨w, action⟩]) next

/-- A head that is reported is not the last block there can be, so there is a block after it. -/
def Action.HeadFits : Action ε → Prop
  | .headAnswer (.ok head) _ => head.toNat < 2 ^ 64 - 1
  | _ => True

/-- What holds at the start and is kept by every step holds throughout the run. -/
theorem Run.invariant {settings : WatchSettings} {subject : Subject}
    {allowed : Watch ε → Action ε → Prop} {first : Watch ε} {Inv : History ε → Watch ε → Prop}
    (hstart : Inv [] first)
    (hkept : ∀ past w action next, Inv past w → allowed w action →
      Step settings subject w action next → Inv (past ++ [⟨w, action⟩]) next)
    {past : History ε} {w : Watch ε} (run : Run settings subject allowed first past w) :
    Inv past w := by
  induction run with
  | start => exact hstart
  | step _ action hallowed hstep ih => exact hkept _ _ _ _ ih hallowed (step?_eq_some_iff.mp hstep)

/-! ## The channel -/

/-- Delivering keeps the channel; only where the watch stands changes. -/
@[simp] theorem deliver_channel (w : Watch ε) (events : List Sighting) (head : BlockNumber) :
    (w.deliver events head).channel = w.channel := by
  cases events <;> rfl

@[simp] theorem afterHead_channel (settings : WatchSettings) (w : Watch ε)
    (progress : Retry.Progress) (draw : Nat) (answer : Except ε BlockNumber) :
    (w.afterHead settings progress draw answer).channel = w.channel := by
  unfold afterHead
  split <;> split <;> rfl

@[simp] theorem afterLogs_channel (settings : WatchSettings) (subject : Subject) (w : Watch ε)
    (q : Query) (draw : Nat) (answer : Except ε (List Log)) :
    (w.afterLogs settings subject q draw answer).channel = w.channel := by
  unfold afterLogs
  split
  next => rfl
  next => rfl
  next => exact deliver_channel ..
  next => rfl
  next => rfl

/-- What the channel has to do with the history: until the receiver is dropped, what came out and
what is still inside are together what went in, in the same order. A receiver that is dropped
has taken out the first part of what went in. -/
def ChannelInv (past : History ε) (w : Watch ε) : Prop :=
  if w.channel.receiver = .dropped then past.received <+: past.sent
  else past.received ++ w.channel.buffer = past.sent

theorem ChannelInv.received_prefix {past : History ε} {w : Watch ε} (h : ChannelInv past w) :
    past.received <+: past.sent := by
  unfold ChannelInv at h
  split at h
  next => exact h
  next => exact ⟨_, h⟩

/-- A step that leaves the channel alone, and in which nothing goes in or comes out. -/
theorem ChannelInv.of_channel_eq {past : History ε} {w next : Watch ε} {m : Moment ε}
    (h : ChannelInv past w) (hsent : m.sent = []) (hreceived : m.received = [])
    (hchannel : next.channel = w.channel) : ChannelInv (past ++ [m]) next := by
  unfold ChannelInv at h ⊢
  rw [History.sent_append, History.received_append, hsent, hreceived, hchannel,
    List.append_nil, List.append_nil]
  exact h

theorem step_channelInv {settings : WatchSettings} {subject : Subject} {past : History ε}
    {w next : Watch ε} {action : Action ε} (h : ChannelInv past w)
    (hstep : Step settings subject w action next) :
    ChannelInv (past ++ [⟨w, action⟩]) next := by
  cases hstep with
  | headAnswer => exact h.of_channel_eq rfl rfl (afterHead_channel ..)
  | logsAnswer => exact h.of_channel_eq rfl rfl (afterLogs_channel ..)
  | elapse => exact h.of_channel_eq rfl rfl rfl
  | refuse => exact h.of_channel_eq rfl rfl rfl
  | stop => exact h.of_channel_eq rfl rfl rfl
  | hangUp => exact h.of_channel_eq rfl rfl rfl
  | tellStop => exact h.of_channel_eq rfl rfl rfl
  | send hphase hroom =>
    -- there is room only while the receiver is open
    have hopen : w.channel.receiver = .open := by
      simp only [Channel.hasRoom, Bool.and_eq_true, decide_eq_true_eq] at hroom
      exact hroom.1
    unfold ChannelInv at h ⊢
    rw [if_neg (by rw [hopen]; decide)] at h
    rw [deliver_channel, if_neg (by rw [hopen]; decide), History.sent_append,
      History.received_append, ← h]
    simp [Moment.sent, Moment.received, hphase]
  | receive hbuffer hopen =>
    unfold ChannelInv at h ⊢
    rw [if_neg hopen] at h
    rw [if_neg hopen, History.sent_append, History.received_append, ← h]
    simp [Moment.sent, Moment.received, hbuffer]
  | closeReceiver hopen =>
    unfold ChannelInv at h ⊢
    rw [if_neg (by rw [hopen]; decide)] at h
    rw [if_neg (by simp), History.sent_append, History.received_append, ← h]
    simp [Moment.sent, Moment.received]
  | dropReceiver =>
    have hreceived := h.received_prefix
    unfold ChannelInv
    rw [if_pos rfl, History.sent_append, History.received_append]
    simpa [Moment.sent, Moment.received] using hreceived

/-- **The channel is a queue.** Whatever the node answers and whoever acts when, the receiver
gets the events in the order in which they were sent, each once: until it is dropped, what it
has taken and what it may still take is all that was sent. -/
theorem Run.channelInv {settings : WatchSettings} {subject : Subject}
    {allowed : Watch ε → Action ε → Prop} {first : BlockNumber} {capacity : Nat}
    {past : History ε} {w : Watch ε}
    (run : Run settings subject allowed (Watch.start first capacity) past w) :
    ChannelInv past w :=
  run.invariant rfl fun _ _ _ _ h _ hstep => step_channelInv h hstep

end SmartAccount.Watch
