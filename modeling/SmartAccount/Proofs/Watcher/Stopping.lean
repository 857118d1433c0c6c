import SmartAccount.Proofs.Watcher.Failing
/-!
# How a watch is stopped

A watch that was told to stop can end at once wherever it waits: no answer has to come for that, no
time has to pass and nobody has to read. Once it has ended, it sends nothing and asks nothing
(`stops_when_told`).

A watch that has lost its receiver can end at once too, but not while it fetches events. There it
goes on with its query, stretch after stretch, and a request that fails for good is the end that its
owner hears of (`ends_without_receiver`, `fetching_outlives_receiver`).

Both facts rest on one lemma that says when a watch can end by itself (`canEnd_iff`), and on what
no step takes back: the word to stop, and the loss of the receiver (`Run.stopping`,
`Run.isClosed`).
-/

namespace SmartAccount.Watch

variable {ε : Type} {settings : WatchSettings} {subject : Subject}

/-! ## Ending by itself -/

/-- Whether the watch takes an action by itself: no answer has to come, no time has to pass, and
neither the owner nor the receiver has a part in it. -/
def Action.isUnaided : Action ε → Bool
  | .send => true
  | .refuse => true
  | .stop => true
  | .hangUp => true
  | _ => false

/-- The watch can end right now and by itself, and all is well then. -/
def CanEnd (settings : WatchSettings) (subject : Subject) (w : Watch ε) : Prop :=
  ∃ action next, action.isUnaided = true ∧ w.step? settings subject action = some next
    ∧ next.result? = some (.ok ())

/-- Whether the watch fetches events: it waits for an answer about logs, or to ask again, or to
break down after the last attempt. -/
def Phase.isFetching : Phase ε → Bool
  | .readingLogs _ => true
  | .retryingLogs _ _ => true
  | .failing _ inQuery _ => inQuery
  | _ => false

/-- Sending an event is no end. -/
theorem deliver_result? (w : Watch ε) (events : List Sighting) (head : BlockNumber) :
    (w.deliver events head).result? = none := by
  cases events <;> rfl

/-- What heeds the receiver does not fetch. -/
theorem Phase.isFetching_of_heedsReceiver {phase : Phase ε} (h : phase.heedsReceiver = true) :
    phase.isFetching = false := by
  cases phase with
  | failing wait inQuery cause =>
    cases inQuery with
    | false => rfl
    | true => cases h
  | readingLogs q => cases h
  | retryingLogs wait q => cases h
  | _ => rfl

/-- Where a watch that has not ended neither fetches nor sends, it heeds the receiver. -/
theorem Phase.heedsReceiver_or_sending {phase : Phase ε} (hlive : phase.isEnded = false)
    (hfree : phase.isFetching = false) :
    phase.heedsReceiver = true ∨ ∃ event rest head, phase = .sending event rest head := by
  cases phase with
  | failing wait inQuery cause =>
    cases inQuery with
    | false => exact .inl rfl
    | true => cases hfree
  | readingLogs q => cases hfree
  | retryingLogs wait q => cases hfree
  | sending event rest head => exact .inr ⟨event, rest, head, rfl⟩
  | ended ending => cases hlive
  | _ => exact .inl rfl

/-- **When a watch can end by itself.** It can if it was told to stop, and also if nobody can
receive any more and it is not fetching. -/
theorem canEnd_iff {w : Watch ε} (hlive : w.phase.isEnded = false) :
    CanEnd settings subject w ↔ w.stopping = true
      ∨ w.channel.isClosed = true ∧ w.phase.isFetching = false := by
  constructor
  · rintro ⟨action, next, hunaided, hstep, hresult⟩
    cases step?_eq_some_iff.mp hstep with
    | send =>
      rw [deliver_result?] at hresult
      cases hresult
    | refuse hphase hclosed =>
      refine .inr ⟨hclosed, ?_⟩
      rw [hphase]
      rfl
    | stop hstop => exact .inl hstop
    | hangUp hclosed hheeds => exact .inr ⟨hclosed, Phase.isFetching_of_heedsReceiver hheeds⟩
    | _ => cases hunaided
  · rintro (hstop | ⟨hclosed, hfree⟩)
    · exact ⟨.stop, _, rfl, step?_eq_some_iff.mpr (.stop hstop hlive), rfl⟩
    · rcases Phase.heedsReceiver_or_sending hlive hfree with hheeds | ⟨event, rest, head, hphase⟩
      · exact ⟨.hangUp, _, rfl, step?_eq_some_iff.mpr (.hangUp hclosed hheeds), rfl⟩
      · exact ⟨.refuse, _, rfl, step?_eq_some_iff.mpr (.refuse hphase hclosed), rfl⟩

/-! ## What no step takes back -/

@[simp] theorem deliver_stopping (w : Watch ε) (events : List Sighting) (head : BlockNumber) :
    (w.deliver events head).stopping = w.stopping := by
  cases events <;> rfl

@[simp] theorem afterHead_stopping (settings : WatchSettings) (w : Watch ε)
    (progress : Retry.Progress) (draw : Nat) (answer : Except ε BlockNumber) :
    (w.afterHead settings progress draw answer).stopping = w.stopping := by
  unfold afterHead
  split <;> split <;> rfl

@[simp] theorem afterLogs_stopping (settings : WatchSettings) (subject : Subject) (w : Watch ε)
    (q : Query) (draw : Nat) (answer : Except ε (List Log)) :
    (w.afterLogs settings subject q draw answer).stopping = w.stopping := by
  unfold afterLogs
  split
  next => rfl
  next => rfl
  next => exact deliver_stopping ..
  next => rfl
  next => rfl

/-- A watch that was told to stop does not forget it. -/
theorem Step.stopping {w next : Watch ε} {action : Action ε}
    (h : Step settings subject w action next) (hstop : w.stopping = true) :
    next.stopping = true := by
  cases h <;> simp [hstop]

/-- A receiver that is gone does not come back. -/
theorem Step.isClosed {w next : Watch ε} {action : Action ε}
    (h : Step settings subject w action next) (hclosed : w.channel.isClosed = true) :
    next.channel.isClosed = true := by
  cases h with
  | headAnswer => rwa [afterHead_channel]
  | logsAnswer => rwa [afterLogs_channel]
  | send => rwa [deliver_channel]
  | closeReceiver => rfl
  | dropReceiver => rfl
  | _ => exact hclosed

/-- Whether an action was taken in a run. -/
def History.Includes (past : History ε) (action : Action ε) : Prop :=
  ∃ m ∈ past, m.action = action

theorem History.includes_append {past : History ε} {m : Moment ε} {action : Action ε}
    (h : Includes (past ++ [m]) action) : past.Includes action ∨ m.action = action := by
  obtain ⟨other, hmem, haction⟩ := h
  rcases List.mem_append.mp hmem with hold | hnew
  · exact .inl ⟨other, hold, haction⟩
  · rw [List.mem_singleton.mp hnew] at haction
    exact .inr haction

/-- What an action brings about, and no step takes back, holds ever after. -/
theorem Run.after_action {allowed : Watch ε → Action ε → Prop} {first w : Watch ε}
    {past : History ε} {action : Action ε} {P : Watch ε → Prop}
    (run : Run settings subject allowed first past w)
    (hbrings : ∀ {w next}, Step settings subject w action next → P next)
    (hkept : ∀ {w action next}, Step settings subject w action next → P w → P next)
    (hpast : past.Includes action) : P w := by
  induction run with
  | start =>
    obtain ⟨m, hmem, -⟩ := hpast
    cases hmem
  | step run other _ hstep ih =>
    have hstep := step?_eq_some_iff.mp hstep
    rcases History.includes_append hpast with hbefore | rfl
    · exact hkept hstep (ih hbefore)
    · exact hbrings hstep

theorem Run.stopping {allowed : Watch ε → Action ε → Prop} {first w : Watch ε} {past : History ε}
    (run : Run settings subject allowed first past w) (htold : past.Includes .tellStop) :
    w.stopping = true :=
  run.after_action (fun hstep => by cases hstep; rfl) Step.stopping htold

theorem Run.isClosed {allowed : Watch ε → Action ε → Prop} {first w : Watch ε} {past : History ε}
    (run : Run settings subject allowed first past w) (hgone : past.Includes .dropReceiver) :
    w.channel.isClosed = true :=
  run.after_action (fun hstep => by cases hstep; rfl) Step.isClosed hgone

/-- Once the watch has ended, nothing passes between it and the node any more. -/
theorem Run.traffic_of_ended {allowed : Watch ε → Action ε → Prop} {w later : Watch ε}
    {more : History ε} {ending : Ending ε} (hended : w.phase = .ended ending)
    (rest : Run settings subject allowed w more later) (past : History ε) :
    History.traffic settings subject (past ++ more) = past.traffic settings subject := by
  induction rest with
  | start => rw [List.append_nil]
  | @step more w' next rest action _ hstep ih =>
    obtain ⟨-, hseen⟩ := (step?_eq_some_iff.mp hstep).move.of_ended (rest.of_ended hended).1
    have hsilent : Moment.traffic settings subject ⟨w', action⟩ = [] :=
      congrArg Seen.traffic hseen
    rw [← List.append_assoc, History.traffic_append, hsilent, List.append_nil, ih]

/-! ## Whole runs -/

variable {first : BlockNumber} {capacity : Nat} {past : History ε} {w : Watch ε}

/-- **A watch can always be stopped.** Whatever the node answers and whatever the receiver does:

* once the owner has told the watch to stop, or has let go of it, it can end right away in every
  state that it reaches, with no answer, no passing of time and no help of the receiver, and then
  all is well;
* once it has ended, in whatever way, it stays so, puts no event into the channel and asks the
  node nothing. -/
theorem stops_when_told
    (run : Run settings subject (fun _ _ => True) (Watch.start first capacity) past w) :
    (past.Includes .tellStop → w.phase.isEnded = false → CanEnd settings subject w)
      ∧ ∀ ending, w.phase = .ended ending → ∀ more later,
          Run settings subject (fun _ _ => True) w more later →
            later.phase = .ended ending ∧ History.sent (past ++ more) = past.sent
              ∧ History.traffic settings subject (past ++ more)
                = past.traffic settings subject := by
  constructor
  · intro htold hlive
    exact (canEnd_iff hlive).mpr (.inl (run.stopping htold))
  · intro ending hended more later rest
    obtain ⟨hlater, hquiet⟩ := rest.of_ended hended
    refine ⟨hlater, ?_, rest.traffic_of_ended hended past⟩
    rw [History.sent_join, hquiet, List.append_nil]

/-- A watch of the small chain that has an event to send when the channel is full. -/
def fullWatch : Watch String :=
  ⟨8, .sending smallSighting [] 8, { capacity := 1, buffer := [smallSighting] }, false⟩

/-- Block 8 holds the same log twice, and nobody reads. -/
theorem fullRun : ∃ past, Run {} smallSubject (fun _ _ => True)
    (Watch.start 8 1 : Watch String) past fullWatch := by
  have run : Run {} smallSubject (fun _ _ => True)
    (Watch.start 8 1 : Watch String) [] (Watch.start 8 1) := .start
  have run := run.step (.headAnswer (.ok 8) 0) trivial rfl
  have htwice : smallSubject.sightings [smallLog, smallLog] = [smallSighting, smallSighting] := by
    rw [show [smallLog, smallLog] = [smallLog] ++ [smallLog] from rfl, Subject.sightings_append,
      sightings_smallLog]
    rfl
  have hfound : Watch.step? {} smallSubject
      (⟨8, .readingLogs { first := 8, last := 8 }, { capacity := 1 }, false⟩ : Watch String)
      (.logsAnswer (.ok [smallLog, smallLog]) 0)
        = some ⟨8, .sending smallSighting [smallSighting] 8, { capacity := 1 }, false⟩ := by
    simp only [step?, afterLogs, Query.afterAnswer, htwice]
    rfl
  have run := run.step (.logsAnswer (.ok [smallLog, smallLog]) 0) trivial hfound
  have run := run.step .send trivial rfl
  exact ⟨_, run⟩

/-- The watch with the full channel can end as soon as it is told to stop. -/
theorem stops_when_told_fullWatch : ∃ past w,
    Run {} smallSubject (fun _ _ => True) (Watch.start 8 1 : Watch String) past w
      ∧ w = { fullWatch with stopping := true } ∧ w.channel.hasRoom = false
      ∧ past.Includes .tellStop ∧ CanEnd {} smallSubject w := by
  obtain ⟨past, run⟩ := fullRun
  have run := run.step .tellStop trivial rfl
  have htold : History.Includes (past ++ [⟨fullWatch, .tellStop⟩]) .tellStop :=
    ⟨_, List.mem_concat_self, rfl⟩
  exact ⟨_, _, run, rfl, rfl, htold, (stops_when_told run).1 htold rfl⟩

/-- **When a watch without a receiver can end.** Once the receiver is dropped, the watch can end by
itself in every state that it reaches, but where it fetches events: there only the word of its
owner lets it. -/
theorem ends_without_receiver
    (run : Run settings subject (fun _ _ => True) (Watch.start first capacity) past w)
    (hgone : past.Includes .dropReceiver) (hlive : w.phase.isEnded = false) :
    CanEnd settings subject w ↔ w.phase.isFetching = false ∨ w.stopping = true := by
  rw [canEnd_iff hlive, or_comm]
  simp only [run.isClosed hgone, true_and]

/-- The watch with the full channel can end as soon as its receiver is dropped. -/
theorem ends_without_receiver_fullWatch : ∃ past w,
    Run {} smallSubject (fun _ _ => True) (Watch.start 8 1 : Watch String) past w
      ∧ past.Includes .dropReceiver ∧ w.phase = fullWatch.phase ∧ w.stopping = false
      ∧ CanEnd {} smallSubject w := by
  obtain ⟨past, run⟩ := fullRun
  have run := run.step .dropReceiver trivial rfl
  have hgone : History.Includes (past ++ [⟨fullWatch, .dropReceiver⟩]) .dropReceiver :=
    ⟨_, List.mem_concat_self, rfl⟩
  exact ⟨_, _, run, hgone, rfl, rfl, (ends_without_receiver run hgone rfl).mpr (.inl rfl)⟩

/-- Ten blocks at once, and three attempts. -/
def threeAttempts : WatchSettings := { maxBlockRange := 10, retry := { maxAttempts := 3 } }

/-- A watch that waits to ask for logs a third time and has lost its receiver. -/
def deafWatch : Watch String where
  nextBlock := 1
  phase := .retryingLogs (.ofSeconds 1)
    { first := 1, last := 30, progress := ⟨3, .ofSeconds 2⟩ }
  channel := { capacity := 8, receiver := .dropped }

/-- A watch loses its receiver while it waits to ask for logs again. It cannot end then, and goes
on to fail with the error of its last attempt. -/
theorem fetching_outlives_receiver : ∃ past,
    Run threeAttempts smallSubject (fun _ _ => True) (Watch.start 1 8) past deafWatch
      ∧ past.Includes .dropReceiver ∧ deafWatch.phase.isEnded = false
      ∧ ¬ CanEnd threeAttempts smallSubject deafWatch
      ∧ ∃ more later, Run threeAttempts smallSubject (fun _ _ => True) deafWatch more later
        ∧ later.result? = some (.error (.request "gone")) := by
  have run : Run threeAttempts smallSubject (fun _ _ => True)
    (Watch.start 1 8 : Watch String) [] (Watch.start 1 8) := .start
  have run := run.step (.headAnswer (.ok 30) 0) trivial rfl
  have run := run.step (.logsAnswer (.error "down") 0) trivial rfl
  have run := run.step .elapse trivial rfl
  have run := run.step (.logsAnswer (.error "down") 0) trivial rfl
  have run := run.step .dropReceiver trivial rfl
  have rest : Run threeAttempts smallSubject (fun _ _ => True) deafWatch [] deafWatch := .start
  have rest := rest.step .elapse trivial rfl
  have rest := rest.step (.logsAnswer (.error "gone") 0) trivial rfl
  refine ⟨_, run, ⟨_, List.mem_concat_self, rfl⟩, rfl, ?_, _, _, rest, rfl⟩
  rw [canEnd_iff rfl]
  rintro (hstop | ⟨-, hfree⟩)
  · cases hstop
  · cases hfree

end SmartAccount.Watch
