import SmartAccount.Proofs.Watcher.Failing
/-!
# What a watch outlasts

A watch repeats a request that fails, so it ends with an error only when some request has failed as
often as the settings allow, once right after the other. As long as the node spares it that, it
goes on (`Run.outlasts`); only a wait that is too long for a span of time could break it down.

The look at the head that a watch takes before it begins, if it is not told where to begin, is
outside of this: it is taken once, and a watch whose first look fails does not begin at all, however
many attempts are allowed (`start_cases`, `start_not_repeated`). `outlasts_failures` says both.
-/

namespace SmartAccount.Watch

variable {ε : Type} {settings : WatchSettings} {subject : Subject}

/-! ## Requests that fail for good -/

/-- Some request has failed as often as it may, once right after the other. -/
def Exhausted (settings : WatchSettings) (traffic : List (Message ε)) : Prop :=
  ∃ before question errors after, traffic = before ++ failures question errors ++ after
    ∧ errors.length = max 1 settings.retry.maxAttempts

/-- Whether a message reports a failure. -/
def Message.isFailure : Message ε → Bool
  | .failure _ => true
  | _ => false

theorem GivenUp.exhausted {traffic : List (Message ε)} {e : ε}
    (h : GivenUp settings subject traffic e) : Exhausted settings traffic := by
  obtain ⟨before, question, errors, rfl, hcount, -, -⟩ := h
  exact ⟨before, question, errors, [], (List.append_nil _).symm, hcount⟩

theorem countP_failures (question : Question) (errors : List ε) :
    (failures question errors).countP Message.isFailure = errors.length := by
  induction errors with
  | nil => rfl
  | cons e rest ih =>
    unfold failures at ih ⊢
    rw [List.flatMap_cons, List.countP_append, ih, List.length_cons, Nat.add_comm]
    rfl

/-- Where fewer requests failed than attempts are allowed, none was given up. -/
theorem not_exhausted {traffic : List (Message ε)}
    (h : traffic.countP Message.isFailure < max 1 settings.retry.maxAttempts) :
    ¬ Exhausted settings traffic := by
  rintro ⟨before, question, errors, after, rfl, hcount⟩
  rw [List.countP_append, List.countP_append, countP_failures, hcount] at h
  omega

/-- An owner who hears of an end hears of the one that there was. -/
theorem ended_of_result? {w : Watch ε} {result : Except (Failure ε) Unit}
    (h : w.result? = some result) : ∃ ending, w.phase = .ended ending ∧ ending.result = result := by
  unfold result? at h
  split at h
  next ending hended => exact ⟨ending, hended, Option.some.inj h⟩
  next => cases h

/-- A watch that nothing was denied for good has not failed with an error of the node. -/
theorem Run.outlasts {first : BlockNumber} {capacity : Nat} {past : History ε} {w : Watch ε}
    (hbounds : settings.retry.minNonzeroWait ≤ settings.retry.maxWait)
    (run : Run settings subject (fun _ _ => True) (Watch.start first capacity) past w)
    (hnode : ¬ Exhausted settings (past.traffic settings subject)) (e : ε) :
    w.result? ≠ some (.error (.request e)) := by
  intro hresult
  have hattempts := run.attemptPhase hbounds
  obtain ⟨ending, hended, hending⟩ := ended_of_result? hresult
  rw [hended] at hattempts
  cases ending with
  | stopped => cases hending
  | failed e => exact hnode (GivenUp.exhausted hattempts)
  | brokenDown cause => cases hending

/-- A watch whose waits fit does not break down. -/
theorem Run.not_brokenDown {first : BlockNumber} {capacity : Nat} {past : History ε} {w : Watch ε}
    (hbounds : settings.retry.minNonzeroWait ≤ settings.retry.maxWait)
    (run : Run settings subject (fun _ _ => True) (Watch.start first capacity) past w)
    (hfit : settings.retry.Fit) (cause : Retry.BreakDown) :
    w.result? ≠ some (.error (.brokenDown cause)) := by
  intro hresult
  have hattempts := run.attemptPhase hbounds
  obtain ⟨ending, hended, hending⟩ := ended_of_result? hresult
  rw [hended] at hattempts
  cases ending with
  | stopped => cases hending
  | failed e => cases hending
  | brokenDown cause => exact hattempts hfit

/-! ## The beginning -/

/-- The block at which a watch begins: the one it is told, or the one after the head that the node
reports when it is asked first. -/
def Begins (script : Chain.Script ε) (from? : Option BlockNumber) (first : BlockNumber) : Prop :=
  from? = some first
    ∨ from? = none ∧ ∃ head, script.head 0 = .ok head ∧ first = blockAfter head

/-- Everything that can come of starting a watch: it begins, or the one look at the head failed. -/
theorem start_cases (script : Chain.Script ε) (subject : Subject) (from? : Option BlockNumber)
    (capacity : Nat) :
    (∃ first, Begins script from? first
        ∧ ∃ r, (Rehearsal.start script subject from? capacity).1 = .ok r
          ∧ r.watch = Watch.start first capacity)
      ∨ ∃ e, from? = none ∧ script.head 0 = .error e
          ∧ (Rehearsal.start script subject from? capacity).1 = .error e := by
  cases from? with
  | some block => exact .inl ⟨block, .inl rfl, _, rfl, rfl⟩
  | none =>
    cases hhead : script.head 0 with
    | ok head =>
      refine .inl ⟨blockAfter head, .inr ⟨rfl, head, hhead, rfl⟩, ?_⟩
      simp only [Rehearsal.start, Chain.Record.askHead, hhead, Except.map]
      exact ⟨_, rfl, rfl⟩
    | error e =>
      refine .inr ⟨e, rfl, rfl, ?_⟩
      simp only [Rehearsal.start, Chain.Record.askHead, hhead, Except.map]

/-- **What a watch outlasts.** Let the bounds of the waits not be crossed. A watch begins if it is
told where to, and otherwise if the first look at the head succeeds. Once it has begun, and as long
as no request fails as often as it may, once right after the other, it does not fail with an error
of the node, whatever else the node answers and whoever else acts; and it does not fail at all if
its waits fit into a span of time. -/
theorem outlasts_failures (hbounds : settings.retry.minNonzeroWait ≤ settings.retry.maxWait)
    (script : Chain.Script ε) (from? : Option BlockNumber) (capacity : Nat) :
    ((∃ r, (Rehearsal.start script subject from? capacity).1 = .ok r)
        ↔ (from? = none → ∃ head, script.head 0 = .ok head))
      ∧ ∀ r, (Rehearsal.start script subject from? capacity).1 = .ok r →
          ∀ past w, Run settings subject (fun _ _ => True) r.watch past w →
            ¬ Exhausted settings (past.traffic settings subject) →
              (∀ e, w.result? ≠ some (.error (.request e)))
                ∧ (settings.retry.Fit → ∀ failure, w.result? ≠ some (.error failure)) := by
  rcases start_cases script subject from? capacity with
    ⟨first, hbegins, r, hstart, hwatch⟩ | ⟨e, hfrom, hhead, hstart⟩
  · refine ⟨iff_of_true ⟨r, hstart⟩ ?_, ?_⟩
    · intro hfrom
      rcases hbegins with htold | ⟨-, head, hhead, -⟩
      · rw [hfrom] at htold
        cases htold
      · exact ⟨head, hhead⟩
    · intro r' hstart' past w run hnode
      rw [hstart] at hstart'
      cases hstart'
      rw [hwatch] at run
      refine ⟨run.outlasts hbounds hnode, fun hfit failure => ?_⟩
      cases failure with
      | request e => exact run.outlasts hbounds hnode e
      | brokenDown cause => exact run.not_brokenDown hbounds hfit cause
  · -- it does not begin, so nothing is left to show of its task
    have hnone : ∀ r, (Rehearsal.start script subject from? capacity).1 ≠ .ok r := by
      intro r
      rw [hstart]
      exact nofun
    refine ⟨iff_of_false ?_ ?_, ?_⟩
    · rintro ⟨r, hok⟩
      exact hnone r hok
    · intro hneeds
      obtain ⟨head, hok⟩ := hneeds hfrom
      rw [hhead] at hok
      cases hok
    · intro r hok
      exact absurd hok (hnone r)

/-- A node that fails to report its head the first time, and never again. -/
def flakyScript : Chain.Script String where
  head n := if n = 0 then .error "down" else .ok 7
  logs _ _ := .ok []

/-- The same node seen by a watch that is told to begin at block 8. -/
theorem flakyRun : ∃ past w, Run oneAtOnce smallSubject (fun _ _ => True)
    (Watch.start 8 1 : Watch String) past w
      ∧ past.traffic oneAtOnce smallSubject
        = [.ask .head, .failure "down", .ask .head, .head 7] := by
  have run : Run oneAtOnce smallSubject (fun _ _ => True)
    (Watch.start 8 1 : Watch String) [] (Watch.start 8 1) := .start
  have run := run.step (.headAnswer (.error "down") 0) trivial rfl
  have run := run.step .elapse trivial rfl
  have run := run.step (.headAnswer (.ok 7) 0) trivial rfl
  exact ⟨_, _, run, rfl⟩

/-- A watch that is told where to begin outlasts the one failure. -/
theorem outlasts_failures_flakyRun :
    oneAtOnce.retry.minNonzeroWait ≤ oneAtOnce.retry.maxWait ∧ oneAtOnce.retry.Fit
      ∧ ∃ r, (Rehearsal.start flakyScript smallSubject (some 8) 1).1 = .ok r
        ∧ ∃ past w, Run oneAtOnce smallSubject (fun _ _ => True) r.watch past w
          ∧ past.traffic oneAtOnce smallSubject
            = [.ask .head, .failure "down", .ask .head, .head 7]
          ∧ ¬ Exhausted oneAtOnce (past.traffic oneAtOnce smallSubject)
          ∧ ∀ failure, w.result? ≠ some (.error failure) := by
  have hbounds : oneAtOnce.retry.minNonzeroWait ≤ oneAtOnce.retry.maxWait := by decide
  have hfit : oneAtOnce.retry.Fit := ⟨by decide, by decide, by decide⟩
  obtain ⟨past, w, run, htraffic⟩ := flakyRun
  have hspared : ¬ Exhausted oneAtOnce (past.traffic oneAtOnce smallSubject) := by
    rw [htraffic]
    exact not_exhausted (by decide)
  exact ⟨hbounds, hfit, _, rfl, past, w, run, htraffic, hspared,
    ((outlasts_failures hbounds flakyScript (some 8) 1).2 _ rfl past w run hspared).2 hfit⟩

/-- The first look at the head is not repeated: although the node fails it only once, and two
attempts are allowed, a watch that is not told where to begin does not begin. -/
theorem start_not_repeated :
    oneAtOnce.retry.attempts = 2 ∧ (∀ n, 0 < n → ∃ head, flakyScript.head n = .ok head)
      ∧ (Rehearsal.start flakyScript smallSubject none 1).1 = .error "down" := by
  refine ⟨rfl, ?_, rfl⟩
  intro n hn
  exact ⟨7, if_neg (Nat.ne_of_gt hn)⟩

end SmartAccount.Watch
