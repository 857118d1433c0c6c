import Mathlib.Data.List.DropRight
import SmartAccount.Proofs.Watcher.Chunking
import SmartAccount.Proofs.Watcher.Delivery
import SmartAccount.Proofs.Watcher.Traffic
/-!
# How a watch fails

A watch gives up on a request when every attempt at it has failed, one right after the other. What
it has fetched in the poll of that request is lost, and nothing of it has been sent; the events of
the polls before have all been sent, and the receiver can still take them before it finds the
channel closed. The owner hears of the failure, whenever he asks; and if a watch stops without one,
it had a reason to. It ends in no other way, unless some wait is too long for a span of time
(`fails_cleanly`).

Two invariants carry this. `AttemptPhase` says which attempts were the last things to pass: those
at the request that a phase waits for, or waits to repeat. `PollPhase` says what became of the logs
of the current poll, which begins where the watch last slept: they are being collected, or they are
being sent.
-/

namespace SmartAccount.Watch

variable {ε : Type} {settings : WatchSettings} {subject : Subject}

/-! ## The attempts at one request -/

/-- Attempts at one request, which all failed. -/
def failures (question : Question) (errors : List ε) : List (Message ε) :=
  errors.flatMap fun e => [.ask question, .failure e]

theorem failures_concat (question : Question) (errors : List ε) (e : ε) :
    failures question (errors ++ [e])
      = failures question errors ++ [.ask question, .failure e] := by
  simp [failures]

/-- The last to pass were failed attempts at one request, so that the next attempt has the number
that `progress` says. -/
def Repeated (settings : WatchSettings) (question : Question) (progress : Retry.Progress)
    (traffic : List (Message ε)) : Prop :=
  ∃ earlier errors, traffic = earlier ++ failures question errors
    ∧ errors.length + 1 = progress.attempt ∧ progress.InBounds settings.retry

/-- The last to pass was the attempt that `progress` says, right after the ones before it, which all
failed. -/
def Asked (settings : WatchSettings) (question : Question) (progress : Retry.Progress)
    (traffic : List (Message ε)) : Prop :=
  ∃ before, traffic = before ++ [.ask question] ∧ Repeated settings question progress before

/-- The last to pass were as many attempts as there can be, all at one request, which is for the
head or for the logs of one range. They all failed, the last one with `e`. -/
def GivenUp (settings : WatchSettings) (subject : Subject) (traffic : List (Message ε)) (e : ε) :
    Prop :=
  ∃ earlier question errors, traffic = earlier ++ failures question errors
    ∧ errors.length = max 1 settings.retry.maxAttempts ∧ errors.getLast? = some e
    ∧ (question = .head ∨ ∃ range, question = .logs (subject.filterFor range))

section Attempts

variable {question : Question} {progress : Retry.Progress} {traffic : List (Message ε)}

/-- A first attempt. -/
theorem Asked.first (traffic : List (Message ε)) :
    Asked settings question {} (traffic ++ [.ask question]) :=
  ⟨traffic, rfl, traffic, [], (List.append_nil _).symm, rfl, .first settings.retry⟩

/-- One more attempt. -/
theorem Repeated.asked (h : Repeated settings question progress traffic) :
    Asked settings question progress (traffic ++ [.ask question]) :=
  ⟨traffic, rfl, h⟩

/-- The attempt fails. -/
theorem Asked.failure (h : Asked settings question progress traffic) (e : ε) :
    ∃ earlier errors, traffic ++ [.failure e] = earlier ++ failures question (errors ++ [e])
      ∧ (errors ++ [e]).length = progress.attempt ∧ progress.InBounds settings.retry := by
  obtain ⟨before, rfl, earlier, errors, rfl, hcount, hbounds⟩ := h
  refine ⟨earlier, errors, ?_, ?_, hbounds⟩
  · rw [failures_concat]
    simp only [List.append_assoc, List.cons_append, List.nil_append]
  · rw [List.length_append, List.length_singleton]
    exact hcount

/-- The attempt fails, and it was not the last. -/
theorem Asked.repeated {next : Retry.Progress} {draw : Nat} {wait : Duration}
    (h : Asked settings question progress traffic) (e : ε)
    (hverdict : progress.afterFailure settings.retry draw = .again wait next) :
    Repeated settings question next (traffic ++ [.failure e]) := by
  obtain ⟨earlier, errors, htraffic, hcount, -⟩ := h.failure e
  obtain ⟨-, hattempt, -⟩ := Retry.Progress.afterFailure_again hverdict
  exact ⟨earlier, errors ++ [e], htraffic, by rw [hcount, hattempt], .next hverdict⟩

/-- The attempt fails, and it was the last. -/
theorem Asked.givenUp (h : Asked settings question progress traffic) (e : ε)
    (hlast : settings.retry.attempts ≤ progress.attempt)
    (hquestion : question = .head ∨ ∃ range, question = .logs (subject.filterFor range)) :
    GivenUp settings subject (traffic ++ [.failure e]) e := by
  obtain ⟨earlier, errors, htraffic, hcount, hbounds⟩ := h.failure e
  refine ⟨earlier, question, errors ++ [e], htraffic, ?_, List.getLast?_concat, hquestion⟩
  rw [hcount]
  exact Nat.le_antisymm hbounds.attempt_le hlast

/-- The attempt fails, and no further one can be made: some wait is too long for a span of time. -/
theorem Asked.not_fit {draw : Nat} {wait? : Option Duration} {cause : Retry.BreakDown}
    (h : Asked settings question progress traffic)
    (hbounds : settings.retry.minNonzeroWait ≤ settings.retry.maxWait)
    (hverdict : progress.afterFailure settings.retry draw = .breakDown wait? cause) :
    ¬ settings.retry.Fit := by
  obtain ⟨_, -, _, _, -, -, hprogress⟩ := h
  exact (hprogress.of_breakDown hverdict).resolve_left (Nat.not_lt_of_le hbounds)

end Attempts

/-- Which attempts were the last to pass in a phase. A watch breaks down only where some wait is too
long. -/
def AttemptPhase (settings : WatchSettings) (subject : Subject) (traffic : List (Message ε)) :
    Phase ε → Prop
  | .readingHead progress => Asked settings .head progress traffic
  | .retryingHead _ progress => Repeated settings .head progress traffic
  | .readingLogs q => Asked settings (.logs (q.filter settings subject)) q.progress traffic
  | .retryingLogs _ q => Repeated settings (.logs (q.filter settings subject)) q.progress traffic
  | .sending _ _ _ => True
  | .polling => True
  | .failing _ _ _ => ¬ settings.retry.Fit
  | .ended .stopped => True
  | .ended (.failed e) => GivenUp settings subject traffic e
  | .ended (.brokenDown _) => ¬ settings.retry.Fit

theorem AttemptPhase.deliver (traffic : List (Message ε)) (w : Watch ε) (events : List Sighting)
    (head : BlockNumber) : AttemptPhase settings subject traffic (w.deliver events head).phase := by
  cases events with
  | nil => exact trivial
  | cons event rest => exact trivial

theorem AttemptPhase.breakingDown (hunfit : ¬ settings.retry.Fit) (traffic : List (Message ε))
    (inQuery : Bool) (cause : Retry.BreakDown) (wait? : Option Duration) :
    AttemptPhase settings subject traffic (Watch.breakingDown inQuery cause wait?) := by
  cases wait? with
  | none => exact hunfit
  | some wait => exact hunfit

/-- **Every move keeps track of the attempts.** -/
theorem Move.attemptPhase {w next : Watch ε} {action : Action ε} {seen : Seen ε}
    {traffic : List (Message ε)}
    (hmove : Move settings subject w action seen next)
    (hbounds : settings.retry.minNonzeroWait ≤ settings.retry.maxWait)
    (h : AttemptPhase settings subject traffic w.phase) :
    AttemptPhase settings subject (traffic ++ seen.traffic) next.phase := by
  cases hmove with
  | newHead hphase hle hq =>
    subst hq
    rw [List.append_cons]
    exact Asked.first _
  | oldHead => exact trivial
  | headFailed hphase hlast =>
    rw [hphase] at h
    exact h.givenUp _ hlast (.inl rfl)
  | headAgain hphase hverdict =>
    rw [hphase] at h
    exact h.repeated _ hverdict
  | headStuck hphase hverdict =>
    rw [hphase] at h
    exact .breakingDown (h.not_fit hbounds hverdict) ..
  | someLogs hphase hmore honward =>
    -- every stretch has its own attempts
    subst honward
    rw [List.append_cons]
    exact Asked.first _
  | lastLogs => exact AttemptPhase.deliver ..
  | @logsFailed q e draw hphase hlast =>
    rw [hphase] at h
    exact h.givenUp _ hlast (.inr ⟨q.range settings, rfl⟩)
  | logsAgain hphase hverdict =>
    rw [hphase] at h
    exact h.repeated _ hverdict
  | logsStuck hphase hverdict =>
    rw [hphase] at h
    exact .breakingDown (h.not_fit hbounds hverdict) ..
  | askHeadAgain hphase =>
    rw [hphase] at h
    exact h.asked
  | askLogsAgain hphase =>
    rw [hphase] at h
    exact h.asked
  | breakDown hphase =>
    rw [hphase] at h
    exact h
  | wake => exact Asked.first _
  | send => exact AttemptPhase.deliver ..
  | quit => exact trivial
  | aside hphase =>
    rw [hphase, List.append_nil]
    exact h

/-! ## Polls -/

/-- Whether the watch sleeps before its next look at the head. -/
def Phase.isPolling : Phase ε → Bool
  | .polling => true
  | _ => false

namespace History

/-- The history up to the last moment in which the watch slept: the polls that are complete. -/
def completed (past : History ε) : History ε :=
  past.rdropWhile fun m => !m.before.phase.isPolling

/-- The history since the watch last slept. -/
def poll (past : History ε) : History ε :=
  past.rtakeWhile fun m => !m.before.phase.isPolling

theorem completed_append_poll (past : History ε) : past.completed ++ past.poll = past :=
  List.rdropWhile_append_rtakeWhile

/-- With a moment in which the watch sleeps, all polls are complete. -/
theorem completed_asleep (past : History ε) {m : Moment ε} (h : m.before.phase = .polling) :
    completed (past ++ [m]) = past ++ [m] ∧ poll (past ++ [m]) = [] :=
  ⟨List.rdropWhile_concat_neg _ _ _ (by simp [h, Phase.isPolling]),
    List.rtakeWhile_concat_neg _ _ _ (by simp [h, Phase.isPolling])⟩

/-- Any other moment belongs to the current poll. -/
theorem completed_awake (past : History ε) {m : Moment ε} (h : m.before.phase.isPolling = false) :
    completed (past ++ [m]) = past.completed ∧ poll (past ++ [m]) = past.poll ++ [m] :=
  ⟨List.rdropWhile_concat_pos _ _ _ (by simp [h]), List.rtakeWhile_concat_pos _ _ _ (by simp [h])⟩

end History

/-- What became of the logs of the current poll, when `sent` has been sent since the poll began. -/
def PollPhase (subject : Subject) (sent : List Sighting) (logs : List Log) : Phase ε → Prop
  | .readingHead _ => sent = [] ∧ logs = []
  | .retryingHead _ _ => sent = [] ∧ logs = []
  | .readingLogs q => sent = [] ∧ q.found = subject.sightings logs
  | .retryingLogs _ q => sent = [] ∧ q.found = subject.sightings logs
  | .sending event rest _ => sent ++ event :: rest = subject.sightings logs
  | .polling => sent = subject.sightings logs
  | .failing _ _ _ => sent = []
  | .ended (.failed _) => sent = []
  | .ended _ => True

theorem PollPhase.deliver {sent events : List Sighting} {logs : List Log}
    (h : sent ++ events = subject.sightings logs) (w : Watch ε) (head : BlockNumber) :
    PollPhase subject sent logs (w.deliver events head).phase := by
  cases events with
  | nil =>
    rw [List.append_nil] at h
    exact h
  | cons event rest => exact h

theorem PollPhase.breakingDown (logs : List Log) (inQuery : Bool) (cause : Retry.BreakDown)
    (wait? : Option Duration) :
    PollPhase (ε := ε) subject [] logs (Watch.breakingDown inQuery cause wait?) := by
  cases wait? with
  | none => exact trivial
  | some wait => rfl

/-- A moment in which the watch does not sleep. -/
theorem Move.pollPhase {w next : Watch ε} {action : Action ε} {seen : Seen ε}
    {sent : List Sighting} {logs : List Log} (hmove : Move settings subject w action seen next)
    (hawake : w.phase.isPolling = false) (h : PollPhase subject sent logs w.phase) :
    PollPhase subject (sent ++ seen.sent) (logs ++ seen.logs) next.phase := by
  cases hmove with
  | newHead hphase hle hq =>
    rw [hphase] at h
    obtain ⟨rfl, rfl⟩ := h
    subst hq
    exact ⟨rfl, rfl⟩
  | oldHead hphase hlt =>
    rw [hphase] at h
    obtain ⟨rfl, rfl⟩ := h
    rfl
  | headFailed hphase =>
    rw [hphase] at h
    obtain ⟨rfl, rfl⟩ := h
    rfl
  | headAgain hphase =>
    rw [hphase] at h
    obtain ⟨rfl, rfl⟩ := h
    exact ⟨rfl, rfl⟩
  | headStuck hphase =>
    rw [hphase] at h
    obtain ⟨rfl, rfl⟩ := h
    exact .breakingDown ..
  | someLogs hphase hmore honward =>
    rw [hphase] at h
    obtain ⟨rfl, hfound⟩ := h
    subst honward
    refine ⟨rfl, ?_⟩
    rw [Subject.sightings_append, ← hfound]
  | lastLogs hphase hlast =>
    rw [hphase] at h
    obtain ⟨rfl, hfound⟩ := h
    refine PollPhase.deliver ?_ w _
    rw [Subject.sightings_append, ← hfound]
    rfl
  | logsFailed hphase =>
    rw [hphase] at h
    obtain ⟨rfl, -⟩ := h
    rfl
  | logsAgain hphase =>
    rw [hphase] at h
    rw [List.append_nil, List.append_nil]
    exact h
  | logsStuck hphase =>
    rw [hphase] at h
    obtain ⟨rfl, -⟩ := h
    exact .breakingDown ..
  | askHeadAgain hphase =>
    rw [hphase] at h
    rw [List.append_nil, List.append_nil]
    exact h
  | askLogsAgain hphase =>
    rw [hphase] at h
    rw [List.append_nil, List.append_nil]
    exact h
  | breakDown => exact trivial
  | wake hphase =>
    -- only a watch that sleeps wakes
    rw [hphase] at hawake
    cases hawake
  | send hphase =>
    -- the event moves from what waits to what was sent
    rw [hphase] at h
    rw [List.append_nil]
    refine PollPhase.deliver ?_ _ _
    rw [List.append_assoc]
    exact h
  | quit => exact trivial
  | aside hphase =>
    rw [hphase, List.append_nil, List.append_nil]
    exact h

/-- A moment in which the watch sleeps. -/
theorem Move.pollPhase_asleep {w next : Watch ε} {action : Action ε} {seen : Seen ε}
    (hmove : Move settings subject w action seen next) (hasleep : w.phase = .polling) :
    seen.sent = [] ∧ seen.logs = [] ∧ PollPhase subject [] [] next.phase := by
  cases hmove with
  | wake => exact ⟨rfl, rfl, rfl, rfl⟩
  | quit => exact ⟨rfl, rfl, trivial⟩
  | aside hphase =>
    rw [hphase, hasleep]
    exact ⟨rfl, rfl, rfl⟩
  | _ => simp_all

/-- The invariant of polls, as a property of a history and the state after it: the events of the
polls that are complete have been sent, and the current one is where its phase says. -/
def PollInv (subject : Subject) (past : History ε) (w : Watch ε) : Prop :=
  past.completed.sent = subject.sightings past.completed.logs
    ∧ PollPhase subject past.poll.sent past.poll.logs w.phase

/-- While the watch sleeps, everything that came has been sent. -/
theorem PollInv.sent_eq {past : History ε} {w : Watch ε} (h : PollInv subject past w)
    (hasleep : w.phase = .polling) : past.sent = subject.sightings past.logs := by
  obtain ⟨hcompleted, hpoll⟩ := h
  rw [hasleep] at hpoll
  calc past.sent = past.completed.sent ++ past.poll.sent := by
        rw [← History.sent_join, past.completed_append_poll]
    _ = subject.sightings past.completed.logs ++ subject.sightings past.poll.logs := by
        rw [hcompleted, show past.poll.sent = _ from hpoll]
    _ = subject.sightings past.logs := by
        rw [← Subject.sightings_append, ← History.logs_join, past.completed_append_poll]

theorem step_pollInv {past : History ε} {w next : Watch ε} {action : Action ε}
    (h : PollInv subject past w) (hstep : Step settings subject w action next) :
    PollInv subject (past ++ [⟨w, action⟩]) next := by
  have hmove := hstep.move
  unfold PollInv
  cases hawake : w.phase.isPolling with
  | false =>
    obtain ⟨hsame, hmore⟩ := past.completed_awake (m := ⟨w, action⟩) hawake
    rw [hsame, hmore, History.sent_append, History.logs_append]
    exact ⟨h.1, hmove.pollPhase hawake h.2⟩
  | true =>
    have hasleep : w.phase = .polling := by
      cases hphase : w.phase with
      | polling => rfl
      | _ =>
        rw [hphase] at hawake
        cases hawake
    obtain ⟨hall, hnone⟩ := past.completed_asleep (m := ⟨w, action⟩) hasleep
    obtain ⟨hsent, hlogs, hnext⟩ := hmove.pollPhase_asleep hasleep
    rw [hall, hnone, History.sent_append, History.logs_append]
    refine ⟨?_, hnext⟩
    rw [show Moment.sent (Moment.mk w action) = [] from hsent,
      show (Moment.mk w action).logs = [] from hlogs, List.append_nil, List.append_nil]
    exact h.sent_eq hasleep

/-! ## After the end -/

/-- The end is final: nothing is seen of the watch any more. -/
theorem Move.of_ended {w next : Watch ε} {action : Action ε} {seen : Seen ε} {ending : Ending ε}
    (hmove : Move settings subject w action seen next) (hended : w.phase = .ended ending) :
    next.phase = .ended ending ∧ seen = {} := by
  cases hmove with
  | quit hlive =>
    rw [hended] at hlive
    cases hlive
  | aside hphase => exact ⟨hphase.trans hended, rfl⟩
  | _ => simp_all

theorem Run.of_ended {allowed : Watch ε → Action ε → Prop} {w later : Watch ε} {more : History ε}
    {ending : Ending ε} (hended : w.phase = .ended ending)
    (rest : Run settings subject allowed w more later) :
    later.phase = .ended ending ∧ more.sent = [] := by
  induction rest with
  | start => exact ⟨hended, rfl⟩
  | step rest action _ hstep ih =>
    obtain ⟨hphase, hseen⟩ := (step?_eq_some_iff.mp hstep).move.of_ended ih.1
    refine ⟨hphase, ?_⟩
    rw [History.sent_append, ih.2]
    exact congrArg Seen.sent hseen

/-- To break down is not to stop. -/
theorem breakingDown_ne_stopped (inQuery : Bool) (cause : Retry.BreakDown)
    (wait? : Option Duration) :
    breakingDown (ε := ε) inQuery cause wait? ≠ .ended .stopped := by
  cases wait? with
  | none => exact nofun
  | some wait => exact nofun

/-- A watch that stopped had a reason to. -/
theorem Move.dismissed {w next : Watch ε} {action : Action ε} {seen : Seen ε}
    (hmove : Move settings subject w action seen next)
    (h : w.phase = .ended .stopped → w.Dismissed) (hstopped : next.phase = .ended .stopped) :
    next.Dismissed := by
  have hended : next.phase.isEnded = true := by
    rw [hstopped]
    rfl
  cases hmove with
  | quit hlive hwhy => exact hwhy
  | aside hphase hnext hkept => exact hkept (h (hphase.symm.trans hstopped))
  | headStuck => exact absurd hstopped (breakingDown_ne_stopped _ _ _)
  | logsStuck => exact absurd hstopped (breakingDown_ne_stopped _ _ _)
  | lastLogs =>
    rw [deliver_isEnded] at hended
    cases hended
  | send =>
    rw [deliver_isEnded] at hended
    cases hended
  | _ => cases hstopped

/-- Once the watch has ended, a receiver that is still there finds the next event that it has not
taken yet, until it has taken all that were sent. -/
theorem ChannelInv.finding_of_ended {past : History ε} {w : Watch ε} {ending : Ending ε}
    (h : ChannelInv past w) (hended : w.phase = .ended ending)
    (hkept : w.channel.receiver ≠ .dropped) :
    (w.finding = .closed ∧ past.received = past.sent)
      ∨ ∃ event rest, w.finding = .event event ∧ past.received ++ event :: rest = past.sent
          ∧ ∃ next, Step settings subject w .receive next := by
  unfold ChannelInv at h
  rw [if_neg hkept] at h
  cases hbuffer : w.channel.buffer with
  | nil =>
    rw [hbuffer, List.append_nil] at h
    refine .inl ⟨?_, h⟩
    simp only [finding, hbuffer, hended, Phase.isEnded, Bool.true_or, if_true]
  | cons event rest =>
    rw [hbuffer] at h
    refine .inr ⟨event, rest, ?_, h, _, .receive hbuffer hkept⟩
    simp only [finding, hbuffer]

/-! ## Whole runs -/

variable {first : BlockNumber} {capacity : Nat} {past : History ε} {w : Watch ε}

theorem Run.attemptPhase (hbounds : settings.retry.minNonzeroWait ≤ settings.retry.maxWait)
    (run : Run settings subject (fun _ _ => True) (Watch.start first capacity) past w) :
    AttemptPhase settings subject (past.traffic settings subject) w.phase := by
  induction run with
  | start => exact Asked.first []
  | step run action _ hstep ih =>
    rw [History.traffic_append]
    exact (step?_eq_some_iff.mp hstep).move.attemptPhase hbounds ih

theorem Run.pollInv
    (run : Run settings subject (fun _ _ => True) (Watch.start first capacity) past w) :
    PollInv subject past w :=
  run.invariant ⟨rfl, rfl, rfl⟩ fun _ _ _ _ h _ hstep => step_pollInv h hstep

theorem Run.dismissed
    (run : Run settings subject (fun _ _ => True) (Watch.start first capacity) past w)
    (hstopped : w.phase = .ended .stopped) : w.Dismissed :=
  run.invariant (fun hstart => nomatch hstart)
    (fun _ _ _ _ h _ hstep => hstep.move.dismissed h) hstopped

/-- **How a watch fails.** Let the bounds of the waits not be crossed. Whatever the node answers,
and whenever the receiver reads or goes and the owner tells the watch to stop:

* a watch fails with an error only when it has made as many attempts as it may at one request, all
  of them failed, one right after the other, and the error is that of the last;
* what it has sent then are the events of the polls that were complete, and nothing of the poll
  that failed, whatever had been fetched in it;
* from then on the owner is told this error, and a receiver that is still there finds one event
  after the other, and the channel closed only once it has taken all that were sent;
* a watch that stops was told to or has lost its receiver, and the owner is told that all is well;
* it ends in no other way, as long as the waits fit into a span of time. -/
theorem fails_cleanly (hbounds : settings.retry.minNonzeroWait ≤ settings.retry.maxWait)
    (run : Run settings subject (fun _ _ => True) (Watch.start first capacity) past w) :
    (∀ e, w.phase = .ended (.failed e) →
      GivenUp settings subject (past.traffic settings subject) e
        ∧ past.sent = subject.sightings past.completed.logs ∧ past.poll.sent = []
        ∧ ∀ more later, Run settings subject (fun _ _ => True) w more later →
            later.result? = some (.error (.request e))
              ∧ (later.channel.receiver ≠ .dropped →
                  (later.finding = .closed ∧ History.received (past ++ more) = past.sent)
                    ∨ ∃ event rest, later.finding = .event event
                      ∧ History.received (past ++ more) ++ event :: rest = past.sent
                      ∧ ∃ next, Step settings subject later .receive next))
      ∧ (w.phase = .ended .stopped →
          w.Dismissed ∧ ∀ more later, Run settings subject (fun _ _ => True) w more later →
            later.result? = some (.ok ()))
      ∧ (settings.retry.Fit → ∀ ending, w.phase = .ended ending →
          ending = .stopped ∨ ∃ e, ending = .failed e) := by
  have hattempts := run.attemptPhase hbounds
  obtain ⟨hcompleted, hpoll⟩ := run.pollInv
  refine ⟨?_, ?_, ?_⟩
  · intro e hfailed
    rw [hfailed] at hattempts hpoll
    have hnothing : past.poll.sent = [] := hpoll
    refine ⟨hattempts, ?_, hnothing, ?_⟩
    · -- so all that was sent belongs to polls that are complete
      rw [← hcompleted]
      nth_rewrite 1 [← past.completed_append_poll]
      rw [History.sent_join, hnothing, List.append_nil]
    · intro more later rest
      obtain ⟨hended, hquiet⟩ := rest.of_ended hfailed
      refine ⟨?_, fun hkept => ?_⟩
      · simp only [result?, hended, Ending.result]
      · -- the run and what follows it are one run, in which no more was sent
        have hsame : History.sent (past ++ more) = past.sent := by
          rw [History.sent_join, hquiet, List.append_nil]
        rw [← hsame]
        exact (run.append rest).channelInv.finding_of_ended hended hkept
  · intro hstopped
    refine ⟨run.dismissed hstopped, fun more later rest => ?_⟩
    obtain ⟨hlater, -⟩ := rest.of_ended hstopped
    simp only [result?, hlater, Ending.result]
  · intro hfit ending hended
    cases ending with
    | stopped => exact .inl rfl
    | failed e => exact .inr ⟨e, rfl⟩
    | brokenDown cause =>
      rw [hended] at hattempts
      exact absurd hfit hattempts

/-- One block at once, and two attempts. -/
def oneAtOnce : WatchSettings := { maxBlockRange := 1, retry := { maxAttempts := 2 } }

/-- A run that sends the event of the first poll, fetches an event in the second and then fails. -/
theorem failingRun : ∃ past w, Run oneAtOnce smallSubject (fun _ _ => True)
    (Watch.start 8 1 : Watch String) past w ∧ w.phase = .ended (.failed "gone")
      ∧ past.sent = [smallSighting] ∧ past.poll.logs = [smallLog] := by
  have run : Run oneAtOnce smallSubject (fun _ _ => True)
    (Watch.start 8 1 : Watch String) [] (Watch.start 8 1) := .start
  have run := run.step (.headAnswer (.ok 8) 0) trivial rfl
  have hfound : Watch.step? oneAtOnce smallSubject
      (⟨8, .readingLogs { first := 8, last := 8 }, { capacity := 1 }, false⟩ : Watch String)
      (.logsAnswer (.ok [smallLog]) 0)
        = some ⟨8, .sending smallSighting [] 8, { capacity := 1 }, false⟩ := by
    simp only [step?, afterLogs, Query.afterAnswer, sightings_smallLog]
    rfl
  have run := run.step (.logsAnswer (.ok [smallLog]) 0) trivial hfound
  have run := run.step .send trivial rfl
  have run := run.step .elapse trivial rfl
  have run := run.step (.headAnswer (.ok 10) 0) trivial rfl
  have hmore : Watch.step? oneAtOnce smallSubject
      (⟨9, .readingLogs { first := 9, last := 10 },
        { capacity := 1, buffer := [smallSighting] }, false⟩ : Watch String)
      (.logsAnswer (.ok [smallLog]) 0)
        = some ⟨9, .readingLogs { first := 10, last := 10, found := [smallSighting] },
            { capacity := 1, buffer := [smallSighting] }, false⟩ := by
    simp only [step?, afterLogs, Query.afterAnswer, sightings_smallLog]
    rfl
  have run := run.step (.logsAnswer (.ok [smallLog]) 0) trivial hmore
  have run := run.step (.logsAnswer (.error "down") 0) trivial rfl
  have run := run.step .elapse trivial rfl
  have run := run.step (.logsAnswer (.error "gone") 0) trivial rfl
  exact ⟨_, _, run, rfl, rfl, rfl⟩

/-- The run fails with the second error; only the event of the first poll has been sent. -/
theorem fails_cleanly_failingRun :
    oneAtOnce.retry.minNonzeroWait ≤ oneAtOnce.retry.maxWait ∧ oneAtOnce.retry.Fit ∧ ∃ past w,
      Run oneAtOnce smallSubject (fun _ _ => True) (Watch.start 8 1 : Watch String) past w
        ∧ GivenUp oneAtOnce smallSubject (past.traffic oneAtOnce smallSubject) "gone"
        ∧ past.poll.logs = [smallLog] ∧ past.poll.sent = []
        ∧ [smallSighting] = smallSubject.sightings past.completed.logs
        ∧ w.result? = some (.error (.request "gone")) := by
  have hbounds : oneAtOnce.retry.minNonzeroWait ≤ oneAtOnce.retry.maxWait := by decide
  have hfit : oneAtOnce.retry.Fit := ⟨by decide, by decide, by decide⟩
  obtain ⟨past, w, run, hfailed, hsent, hlogs⟩ := failingRun
  obtain ⟨hgiven, hcompleted, hnothing, hafter⟩ := (fails_cleanly hbounds run).1 _ hfailed
  rw [hsent] at hcompleted
  exact ⟨hbounds, hfit, past, w, run, hgiven, hlogs, hnothing, hcompleted, (hafter [] w .start).1⟩

end SmartAccount.Watch
