import SmartAccount.Proofs.Retry
import SmartAccount.Proofs.Watcher.Run
import SmartAccount.Proofs.Watcher.Stretches
import SmartAccount.Watcher.Rehearsal
/-!
# What passes between a watch and its node

A watch asks when it starts to wait for an answer. So what it asks, and what comes back, can be read
off the history of a run (`History.traffic`), and so can the logs that came and the ranges that
were fetched.

`Step` says what an action does by naming the functions of the watch. `Move` says it by the state
that comes out and by what is seen of it, one constructor for each thing that can happen: a proof
about all steps of a watch is a case analysis of `Move`, and no function of the watch is opened
again (`Step.move`).

Runs can be cut and joined (`Run.split`, `Run.append`), so what is proved of the last step of every
run holds of every step.
-/

namespace SmartAccount

namespace Watch

variable {ε : Type} {settings : WatchSettings} {subject : Subject}

/-! ## Traffic -/

/-- What passes between a watch and its node. -/
inductive Message (ε : Type) where
  | ask (question : Question)
  | head (head : BlockNumber)
  | logs (logs : List Log)
  | failure (error : ε)

/-- What a watch asks that comes into a phase: the question whose answer the phase waits for. -/
def Phase.asks (settings : WatchSettings) (subject : Subject) : Phase ε → List (Message ε)
  | .readingHead _ => [.ask .head]
  | .readingLogs q => [.ask (.logs (q.filter settings subject))]
  | _ => []

/-- While events are sent and after them, no answer is waited for. -/
@[simp] theorem deliver_asks (w : Watch ε) (events : List Sighting) (head : BlockNumber) :
    (w.deliver events head).phase.asks settings subject = [] := by
  cases events <;> rfl

/-- A watch that breaks down waits for no answer. -/
@[simp] theorem breakingDown_asks (inQuery : Bool) (cause : Retry.BreakDown)
    (wait? : Option Duration) :
    (breakingDown (ε := ε) inQuery cause wait?).asks settings subject = [] := by
  cases wait? <;> rfl

/-- While events are sent and after them, the watch has not ended. -/
@[simp] theorem deliver_isEnded (w : Watch ε) (events : List Sighting) (head : BlockNumber) :
    (w.deliver events head).phase.isEnded = false := by
  cases events <;> rfl

namespace Moment

/-- What the watch asks as it goes on. -/
def asks (settings : WatchSettings) (subject : Subject) (m : Moment ε) : List (Message ε) :=
  match m.before.step? settings subject m.action with
  | some next => next.phase.asks settings subject
  | none => []

/-- What passes between the watch and its node. The watch asks after an answer or at the end of
a wait. -/
def traffic (settings : WatchSettings) (subject : Subject) (m : Moment ε) : List (Message ε) :=
  match m.action with
  | .headAnswer (.ok head) _ => .head head :: m.asks settings subject
  | .headAnswer (.error e) _ => .failure e :: m.asks settings subject
  | .logsAnswer (.ok logs) _ => .logs logs :: m.asks settings subject
  | .logsAnswer (.error e) _ => .failure e :: m.asks settings subject
  | .elapse => m.asks settings subject
  | _ => []

/-- The logs that come. -/
def logs (m : Moment ε) : List Log :=
  match m.action with
  | .logsAnswer (.ok logs) _ => logs
  | _ => []

/-- The range whose logs come. -/
def fetched (settings : WatchSettings) (m : Moment ε) : List BlockRange :=
  match m.action, m.before.phase with
  | .logsAnswer (.ok _) _, .readingLogs q => [q.range settings]
  | _, _ => []

end Moment

namespace History

/-- What has passed between a watch and its node since the watch began, with its first question
for the head. -/
def traffic (settings : WatchSettings) (subject : Subject) (past : History ε) : List (Message ε) :=
  .ask .head :: past.flatMap (Moment.traffic settings subject)

/-- The logs that have come. -/
def logs (past : History ε) : List Log := past.flatMap Moment.logs

/-- The ranges whose logs have come. -/
def fetched (settings : WatchSettings) (past : History ε) : List BlockRange :=
  past.flatMap (Moment.fetched settings)

@[simp] theorem traffic_append (past : History ε) (m : Moment ε) :
    traffic settings subject (past ++ [m])
      = traffic settings subject past ++ m.traffic settings subject := by
  simp [traffic]

theorem logs_join (past more : History ε) : logs (past ++ more) = logs past ++ logs more :=
  List.flatMap_append

theorem sent_join (past more : History ε) : sent (past ++ more) = sent past ++ sent more :=
  List.flatMap_append

@[simp] theorem logs_append (past : History ε) (m : Moment ε) :
    logs (past ++ [m]) = logs past ++ m.logs := by
  simp [logs]

@[simp] theorem fetched_append (past : History ε) (m : Moment ε) :
    fetched settings (past ++ [m]) = fetched settings past ++ m.fetched settings := by
  simp [fetched]

end History

/-- What the watch asks in a step is what it waits for after it. -/
theorem Step.asks_eq {w next : Watch ε} {action : Action ε}
    (h : Step settings subject w action next) :
    Moment.asks settings subject ⟨w, action⟩ = next.phase.asks settings subject := by
  unfold Moment.asks
  rw [step?_eq_some_iff.mpr h]

/-! ## Moves -/

/-- What is seen of a moment. -/
structure Seen (ε : Type) where
  heads : List BlockNumber := []
  sent : List Sighting := []
  traffic : List (Message ε) := []
  logs : List Log := []
  fetched : List BlockRange := []

def Moment.seen (settings : WatchSettings) (subject : Subject) (m : Moment ε) : Seen ε where
  heads := m.heads
  sent := m.sent
  traffic := m.traffic settings subject
  logs := m.logs
  fetched := m.fetched settings

/-- Whether a watch has a reason to stop: it was told to, or nobody can receive any more. -/
def Dismissed (w : Watch ε) : Prop := w.stopping = true ∨ w.channel.isClosed = true

/-- Everything that can happen to a watch, by what is seen of it and what comes out. -/
inductive Move (settings : WatchSettings) (subject : Subject) (w : Watch ε) :
    Action ε → Seen ε → Watch ε → Prop where
  | newHead {progress : Retry.Progress} {head : BlockNumber} {draw : Nat} {q : Query}
      (hphase : w.phase = .readingHead progress) (hle : w.nextBlock ≤ head)
      (hq : q = { first := w.nextBlock, last := head }) :
      Move settings subject w (.headAnswer (.ok head) draw)
        { heads := [head]
          traffic := [.head head, .ask (.logs (q.filter settings subject))] }
        { w with phase := .readingLogs q }
  | oldHead {progress : Retry.Progress} {head : BlockNumber} {draw : Nat}
      (hphase : w.phase = .readingHead progress) (hlt : head < w.nextBlock) :
      Move settings subject w (.headAnswer (.ok head) draw)
        { heads := [head], traffic := [.head head] }
        { w with phase := .polling }
  | headFailed {progress : Retry.Progress} {e : ε} {draw : Nat}
      (hphase : w.phase = .readingHead progress)
      (hlast : settings.retry.attempts ≤ progress.attempt) :
      Move settings subject w (.headAnswer (.error e) draw)
        { traffic := [.failure e] }
        { w with phase := .ended (.failed e) }
  | headAgain {progress next : Retry.Progress} {e : ε} {draw : Nat} {wait : Duration}
      (hphase : w.phase = .readingHead progress)
      (hverdict : progress.afterFailure settings.retry draw = .again wait next) :
      Move settings subject w (.headAnswer (.error e) draw)
        { traffic := [.failure e] }
        { w with phase := .retryingHead wait next }
  | headStuck {progress : Retry.Progress} {e : ε} {draw : Nat} {wait? : Option Duration}
      {cause : Retry.BreakDown} (hphase : w.phase = .readingHead progress)
      (hverdict : progress.afterFailure settings.retry draw = .breakDown wait? cause) :
      Move settings subject w (.headAnswer (.error e) draw)
        { traffic := [.failure e] }
        { w with phase := breakingDown false cause wait? }
  | someLogs {q onward : Query} {logs : List Log} {draw : Nat} (hphase : w.phase = .readingLogs q)
      (hmore : q.stretchEnd settings < q.last)
      (honward : onward = { first := q.stretchEnd settings + 1, last := q.last,
                            found := q.found ++ subject.sightings logs }) :
      Move settings subject w (.logsAnswer (.ok logs) draw)
        { traffic := [.logs logs, .ask (.logs (onward.filter settings subject))]
          logs := logs
          fetched := [q.range settings] }
        { w with phase := .readingLogs onward }
  | lastLogs {q : Query} {logs : List Log} {draw : Nat} (hphase : w.phase = .readingLogs q)
      (hlast : q.stretchEnd settings = q.last) :
      Move settings subject w (.logsAnswer (.ok logs) draw)
        { traffic := [.logs logs], logs := logs, fetched := [q.range settings] }
        (w.deliver (q.found ++ subject.sightings logs) q.last)
  | logsFailed {q : Query} {e : ε} {draw : Nat} (hphase : w.phase = .readingLogs q)
      (hlast : settings.retry.attempts ≤ q.progress.attempt) :
      Move settings subject w (.logsAnswer (.error e) draw)
        { traffic := [.failure e] }
        { w with phase := .ended (.failed e) }
  | logsAgain {q : Query} {next : Retry.Progress} {e : ε} {draw : Nat} {wait : Duration}
      (hphase : w.phase = .readingLogs q)
      (hverdict : q.progress.afterFailure settings.retry draw = .again wait next) :
      Move settings subject w (.logsAnswer (.error e) draw)
        { traffic := [.failure e] }
        { w with phase := .retryingLogs wait { q with progress := next } }
  | logsStuck {q : Query} {e : ε} {draw : Nat} {wait? : Option Duration}
      {cause : Retry.BreakDown} (hphase : w.phase = .readingLogs q)
      (hverdict : q.progress.afterFailure settings.retry draw = .breakDown wait? cause) :
      Move settings subject w (.logsAnswer (.error e) draw)
        { traffic := [.failure e] }
        { w with phase := breakingDown true cause wait? }
  | askHeadAgain {wait : Duration} {progress : Retry.Progress}
      (hphase : w.phase = .retryingHead wait progress) :
      Move settings subject w .elapse
        { traffic := [.ask .head] }
        { w with phase := .readingHead progress }
  | askLogsAgain {wait : Duration} {q : Query} (hphase : w.phase = .retryingLogs wait q) :
      Move settings subject w .elapse
        { traffic := [.ask (.logs (q.filter settings subject))] }
        { w with phase := .readingLogs q }
  | breakDown {wait : Duration} {inQuery : Bool} {cause : Retry.BreakDown}
      (hphase : w.phase = .failing wait inQuery cause) :
      Move settings subject w .elapse {} { w with phase := .ended (.brokenDown cause) }
  | wake (hphase : w.phase = .polling) :
      Move settings subject w .elapse
        { traffic := [.ask .head] }
        { w with phase := lookAtHead }
  | send {event : Sighting} {rest : List Sighting} {head : BlockNumber}
      (hphase : w.phase = .sending event rest head) :
      Move settings subject w .send
        { sent := [event] }
        (deliver { w with channel := { w.channel with buffer := w.channel.buffer ++ [event] } }
          rest head)
  | quit {action : Action ε} (hlive : w.phase.isEnded = false) (hwhy : w.Dismissed) :
      Move settings subject w action {} { w with phase := .ended .stopped }
  /-- The owner or the receiver acts; the watch itself stays where it is. -/
  | aside {action : Action ε} {next : Watch ε} (hphase : next.phase = w.phase)
      (hnext : next.nextBlock = w.nextBlock) (hkept : w.Dismissed → next.Dismissed) :
      Move settings subject w action {} next

/-- What is seen when the answer about the head comes. -/
theorem Step.seen_headAnswer {w next : Watch ε} {answer : Except ε BlockNumber} {draw : Nat}
    (h : Step settings subject w (.headAnswer answer draw) next) :
    Moment.seen settings subject ⟨w, .headAnswer answer draw⟩ = match answer with
      | .ok head => { heads := [head], traffic := .head head :: next.phase.asks settings subject }
      | .error e => { traffic := .failure e :: next.phase.asks settings subject } := by
  rw [← h.asks_eq]
  cases answer <;> rfl

/-- What is seen when the answer about logs comes. -/
theorem Step.seen_logsAnswer {w next : Watch ε} {q : Query} {answer : Except ε (List Log)}
    {draw : Nat} (h : Step settings subject w (.logsAnswer answer draw) next)
    (hphase : w.phase = .readingLogs q) :
    Moment.seen settings subject ⟨w, .logsAnswer answer draw⟩ = match answer with
      | .ok logs => { traffic := .logs logs :: next.phase.asks settings subject, logs := logs,
                      fetched := [q.range settings] }
      | .error e => { traffic := .failure e :: next.phase.asks settings subject } := by
  rw [← h.asks_eq]
  cases answer with
  | ok logs =>
    have hfetched : Moment.fetched settings ⟨w, .logsAnswer (.ok logs) draw⟩
        = [q.range settings] := by
      simp only [Moment.fetched, hphase]
    unfold Moment.seen
    rw [hfetched]
    rfl
  | error e => rfl

/-- What is seen at the end of a wait. -/
theorem Step.seen_elapse {w next : Watch ε} (h : Step settings subject w .elapse next) :
    Moment.seen settings subject ⟨w, .elapse⟩
      = { traffic := next.phase.asks settings subject } := by
  rw [← h.asks_eq]
  rfl

/-- Every step is one of the moves. -/
theorem Step.move {w next : Watch ε} {action : Action ε}
    (h : Step settings subject w action next) :
    Move settings subject w action (Moment.seen settings subject ⟨w, action⟩) next := by
  cases h with
  | @headAnswer progress answer draw hphase =>
    rw [(Step.headAnswer hphase).seen_headAnswer]
    cases answer with
    | ok head =>
      simp only [afterHead]
      split
      next hle => exact .newHead hphase hle rfl
      next hlt => exact .oldHead hphase (BitVec.not_le.mp hlt)
    | error e =>
      simp only [afterHead]
      cases hverdict : progress.afterFailure settings.retry draw with
      | giveUp => exact .headFailed hphase (Retry.Progress.attempts_le_of_giveUp hverdict)
      | again wait next => exact .headAgain hphase hverdict
      | breakDown wait? cause =>
        simp only [breakingDown_asks]
        exact .headStuck hphase hverdict
  | @logsAnswer q answer draw hphase =>
    rw [(Step.logsAnswer hphase).seen_logsAnswer hphase]
    cases answer with
    | ok logs =>
      simp only [afterLogs, Query.afterAnswer]
      by_cases hlast : q.last ≤ q.stretchEnd settings
      · rw [if_pos hlast]
        simp only [deliver_asks]
        refine .lastLogs hphase (BitVec.eq_of_toNat_eq ?_)
        have := Query.stretchEnd_le_last settings q
        rw [BitVec.le_def] at hlast
        omega
      · rw [if_neg hlast]
        exact .someLogs hphase (BitVec.not_le.mp hlast) rfl
    | error e =>
      simp only [afterLogs, Query.afterAnswer]
      cases hverdict : q.progress.afterFailure settings.retry draw with
      | giveUp => exact .logsFailed hphase (Retry.Progress.attempts_le_of_giveUp hverdict)
      | again wait next => exact .logsAgain hphase hverdict
      | breakDown wait? cause =>
        simp only [breakingDown_asks]
        exact .logsStuck hphase hverdict
  | elapse hwait =>
    rw [(Step.elapse hwait).seen_elapse]
    rcases afterWait_eq_some hwait with
      ⟨wait, progress, hphase, rfl⟩ | ⟨wait, q, hphase, rfl⟩
        | ⟨wait, inQuery, cause, hphase, rfl⟩
        | ⟨hphase, rfl⟩
    · exact .askHeadAgain hphase
    · exact .askLogsAgain hphase
    · exact .breakDown hphase
    · exact .wake hphase
  | @send event rest head hphase hroom =>
    have hsent : Moment.sent (⟨w, .send⟩ : Moment ε) = [event] := by
      simp only [Moment.sent, hphase]
    have hseen : Moment.seen settings subject ⟨w, .send⟩ = { sent := [event] } := by
      unfold Moment.seen
      rw [hsent]
      rfl
    rw [hseen]
    exact .send hphase
  | refuse hphase hclosed => exact .quit (by rw [hphase]; rfl) (.inr hclosed)
  | stop hstop hlive => exact .quit hlive (.inl hstop)
  | hangUp hclosed hheeds =>
    refine .quit ?_ (.inr hclosed)
    cases hphase : w.phase with
    | ended ending =>
      rw [hphase] at hheeds
      cases hheeds
    | _ => rfl
  | tellStop => exact .aside rfl rfl fun _ => .inl rfl
  | receive hbuffer hopen => exact .aside rfl rfl fun hgone => hgone
  | closeReceiver hopen => exact .aside rfl rfl fun _ => .inr rfl
  | dropReceiver => exact .aside rfl rfl fun _ => .inr rfl

/-! ## Cutting and joining runs -/

variable {allowed : Watch ε → Action ε → Prop}

/-- A run from where another one ended goes on with it. -/
theorem Run.append {first w next : Watch ε} {past more : History ε}
    (run : Run settings subject allowed first past w)
    (rest : Run settings subject allowed w more next) :
    Run settings subject allowed first (past ++ more) next := by
  induction rest with
  | start =>
    rw [List.append_nil]
    exact run
  | step _ action hallowed hstep ih =>
    rw [← List.append_assoc]
    exact ih.step action hallowed hstep

/-- What stands in a list with one more at the end is the last, or it stood there before. -/
theorem concat_eq_split {α : Type} {list before after : List α} {last x : α}
    (h : list ++ [last] = before ++ x :: after) :
    (list = before ∧ last = x) ∨ ∃ rest, list = before ++ x :: rest := by
  rcases List.eq_nil_or_concat after with rfl | ⟨rest, other, rfl⟩
  · obtain ⟨hbefore, hlast⟩ := List.append_inj' h rfl
    exact .inl ⟨hbefore, List.singleton_inj.mp hlast⟩
  · rw [List.concat_eq_append, ← List.cons_append, ← List.append_assoc] at h
    exact .inr ⟨rest, (List.append_inj' h rfl).1⟩

/-- Every moment of a run is a step from a state that the run reached before. -/
theorem Run.split {first w : Watch ε} {past : History ε}
    (run : Run settings subject allowed first past w) :
    ∀ {earlier later : History ε} {m : Moment ε}, past = earlier ++ m :: later →
      ∃ next, Run settings subject allowed first earlier m.before
        ∧ allowed m.before m.action ∧ Step settings subject m.before m.action next := by
  induction run with
  | start =>
    intro earlier later m heq
    simp at heq
  | @step past w next run action hallowed hstep ih =>
    intro earlier later m heq
    rcases concat_eq_split heq with ⟨rfl, rfl⟩ | ⟨rest, hpast⟩
    · exact ⟨next, run, hallowed, step?_eq_some_iff.mp hstep⟩
    · exact ih hpast

end Watch

end SmartAccount
