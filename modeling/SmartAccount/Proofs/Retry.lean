import Mathlib.Data.ENat.Lattice
import SmartAccount.Retry
/-!
# How often an action is tried

A run of attempts goes on to the first that succeeds, or to the last that is allowed, and its
result is that of its last attempt (`Report.IsRegular`). So it goes with every stream of outcomes,
unless the run breaks down. It breaks down if the bounds of the waits are crossed: then after its
first failure and one wait, unless no attempt is left or none is needed (`run_calls`).

Between two attempts there is a wait, and none after the last: the times of a regular run can be
worked out from its waits alone, with one wait fewer than attempts (`pace`).

The other half is that nothing overflows. No wait of a run grows beyond its upper bound
(`Progress.InBounds`), so every sum and double is a span if the options leave room for it
(`Options.Fit`). And an attempt is counted only before the last: `runChecked`, the same run with a
counter of 64 bits, comes to the same.
-/

namespace SmartAccount

namespace Retry

variable {ε α : Type}

/-- The attempt has a result that is no error. -/
def Attempt.Succeeds (a : Attempt ε α) : Prop := ∃ x, a.result = .ok x

theorem Attempt.not_succeeds {a : Attempt ε α} {e : ε} (h : a.result = .error e) :
    ¬ a.Succeeds := by
  rintro ⟨x, hx⟩
  rw [h] at hx
  cases hx

/-- The number of the first attempt that succeeds, counted from one; infinite if none does. -/
noncomputable def firstSuccess (outcome : Nat → Attempt ε α) : ℕ∞ :=
  sInf {k | ∃ n : Nat, k = n ∧ 1 ≤ n ∧ (outcome n).Succeeds}

/-! ## The attempt that decides -/

/-- Attempt number `last` decides a run from attempt number `first` on: the attempts before it fail,
and it succeeds or is the last that is allowed. -/
structure Decides (options : Options) (outcome : Nat → Attempt ε α) (first last : Nat) : Prop where
  first_le : first ≤ last
  le_attempts : last ≤ options.attempts
  failed : ∀ k, first ≤ k → k < last → ¬ (outcome k).Succeeds
  settled : (outcome last).Succeeds ∨ last = options.attempts

variable {options : Options} {outcome : Nat → Attempt ε α}

/-- The attempt before one that decides fails; then the same attempt decides. -/
theorem Decides.earlier {first last : Nat} (h : Decides options outcome (first + 1) last)
    (hfailed : ¬ (outcome first).Succeeds) : Decides options outcome first last := by
  refine ⟨Nat.le_of_succ_le h.first_le, h.le_attempts, ?_, h.settled⟩
  intro k hfirst hlast
  rcases Nat.eq_or_lt_of_le hfirst with rfl | hlt
  · exact hfailed
  · exact h.failed k hlt hlast

/-- No attempt before the one that decides succeeds. -/
theorem Decides.le_firstSuccess {last : Nat} (h : Decides options outcome 1 last) :
    (last : ℕ∞) ≤ firstSuccess outcome := by
  refine le_sInf ?_
  rintro _ ⟨n, rfl, hfirst, hsucceeds⟩
  refine Nat.cast_le.mpr (Nat.le_of_not_lt fun hlt => ?_)
  exact h.failed n hfirst hlt hsucceeds

/-- A run is decided by its first success, or by the last attempt that is allowed. -/
theorem Decides.eq_min {last : Nat} (h : Decides options outcome 1 last) :
    (last : ℕ∞) = min (firstSuccess outcome) options.attempts := by
  refine le_antisymm (le_min h.le_firstSuccess (Nat.cast_le.mpr h.le_attempts)) ?_
  rcases h.settled with hsucceeds | rfl
  · exact (min_le_left _ _).trans (sInf_le ⟨last, rfl, h.first_le, hsucceeds⟩)
  · exact min_le_right _ _

/-- The attempt that decides is a success if there is one in time. -/
theorem Decides.succeeds_iff {last : Nat} (h : Decides options outcome 1 last) :
    (outcome last).Succeeds ↔ firstSuccess outcome ≤ options.attempts := by
  constructor
  · intro hsucceeds
    calc firstSuccess outcome ≤ last := sInf_le ⟨last, rfl, h.first_le, hsucceeds⟩
      _ ≤ options.attempts := Nat.cast_le.mpr h.le_attempts
  · intro hintime
    by_contra hfails
    have hlast : last = options.attempts := h.settled.resolve_left hfails
    -- then the first success comes later than the last attempt
    have hlate : ((last + 1 : Nat) : ℕ∞) ≤ firstSuccess outcome := by
      refine le_sInf ?_
      rintro _ ⟨n, rfl, hfirst, hsucceeds⟩
      refine Nat.cast_le.mpr (Nat.lt_of_not_le fun hle => ?_)
      rcases Nat.eq_or_lt_of_le hle with rfl | hlt
      · exact hfails hsucceeds
      · exact h.failed n hfirst hlt hsucceeds
    have := Nat.cast_le.mp (hlate.trans hintime)
    omega

/-! ## The times of a run -/

/-- When attempts start that begin with number `k` at `now` and have the given waits between them,
and when the last of them ends. -/
def pace (clock : Clock) (outcome : Nat → Attempt ε α) :
    (k : Nat) → (now : Duration) → (waits : List Duration) → List Duration × Duration
  | k, now, [] => ([now], clock.endOfWait now (outcome k).takes)
  | k, now, wait :: rest =>
    let done := clock.endOfWait now (outcome k).takes
    let later := pace clock outcome (k + 1) (clock.endOfWait done wait) rest
    (now :: later.1, later.2)

/-- There is one attempt more than there are waits between attempts. -/
theorem length_pace (clock : Clock) (outcome : Nat → Attempt ε α) (k : Nat) (now : Duration)
    (waits : List Duration) : (pace clock outcome k now waits).1.length = waits.length + 1 := by
  induction waits generalizing k now with
  | nil => rfl
  | cons wait rest ih =>
    rw [pace, List.length_cons, ih, List.length_cons]

theorem length_starts {clock : Clock} {first : Nat} {now : Duration} {r : Report ε α}
    (h : pace clock outcome first now r.waits = (r.starts, r.ended)) :
    r.starts.length = r.waits.length + 1 := by
  have hlength := length_pace clock outcome first now r.waits
  rwa [h] at hlength

/-! ## What a failure leads to -/

/-- The options have numbers of 64 bits, and waits that leave room for their double and for a
jitter. -/
structure Options.Fit (options : Options) : Prop where
  maxAttempts_lt : options.maxAttempts < 2 ^ 64
  double_le : 2 * options.maxWait ≤ Duration.longest
  jitter_le : options.maxWait + options.maxJitter ≤ Duration.longest

theorem Options.jitter_le (options : Options) (draw : Nat) :
    options.jitter draw ≤ options.maxJitter := by
  unfold jitter
  split
  · exact Nat.zero_le _
  · next hjitter => exact Nat.le_of_lt (Nat.mod_lt _ (Nat.pos_of_ne_zero hjitter))

namespace Progress

/-- What holds of the progress of a run: no attempt is beyond the last that is allowed, and no wait
is longer than it may be. -/
structure InBounds (options : Options) (p : Progress) : Prop where
  attempt_le : p.attempt ≤ options.attempts
  wait_le : p.wait ≤ options.maxWait

theorem InBounds.first (options : Options) : ({} : Progress).InBounds options :=
  ⟨Nat.le_max_left _ _, Nat.zero_le _⟩

theorem InBounds.next {p next : Progress} {draw : Nat} {wait : Duration}
    (h : p.afterFailure options draw = .again wait next) : next.InBounds options := by
  obtain ⟨hmore, hattempt, hbounds, -, hwait⟩ := afterFailure_again h
  refine ⟨?_, ?_⟩
  · rw [hattempt]
    exact Nat.succ_le_of_lt hmore
  · rw [hwait]
    exact Nat.max_le.mpr ⟨hbounds, Nat.min_le_right _ _⟩

/-- A run gives up only after its last attempt. -/
theorem attempts_le_of_giveUp {p : Progress} {draw : Nat}
    (h : p.afterFailure options draw = .giveUp) : options.attempts ≤ p.attempt := by
  rcases p.afterFailure_cases options draw with
    ⟨hlast, -⟩ | ⟨-, -, hagain⟩ | ⟨-, -, hbreak⟩ | ⟨-, -, _, _, hbreak⟩
  · exact hlast
  · rw [h] at hagain
    cases hagain
  · rw [h] at hbreak
    cases hbreak
  · rw [h] at hbreak
    cases hbreak

/-- Within its bounds, a run breaks down only where these are crossed or where the options do not
fit. -/
theorem InBounds.of_breakDown {p : Progress} {draw : Nat} {wait? : Option Duration}
    {cause : BreakDown} (hp : p.InBounds options)
    (h : p.afterFailure options draw = .breakDown wait? cause) :
    options.maxWait < options.minNonzeroWait ∨ ¬ options.Fit := by
  rcases p.afterFailure_cases options draw with
    ⟨-, hgiveUp⟩ | ⟨-, -, hagain⟩ | ⟨-, hcrossed, -⟩ | ⟨-, hlong, -⟩
  · rw [h] at hgiveUp
    cases hgiveUp
  · rw [h] at hagain
    cases hagain
  · exact .inl hcrossed
  · refine .inr fun hfit => ?_
    rcases hlong with hwait | hdouble
    · have hsum := Nat.add_le_add hp.wait_le (options.jitter_le draw)
      exact absurd (hsum.trans hfit.jitter_le) (Nat.not_le_of_lt hwait)
    · have htwice := Nat.mul_le_mul_left 2 hp.wait_le
      exact absurd (htwice.trans hfit.double_le) (Nat.not_le_of_lt hdouble)

end Progress

/-! ## What a run comes to -/

section Steps

variable {clock : Clock} {description : String} {shown : ε → String} {draw : Nat → Nat}
  {p : Progress} {now : Duration}

theorem runFrom_of_ok {a : α} (h : (outcome p.attempt).result = .ok a) :
    runFrom clock options description shown draw outcome p now
      = ⟨.ok (.ok a), [now], [], clock.endOfWait now (outcome p.attempt).takes, []⟩ := by
  rw [runFrom]
  simp only [h]

/-- After a failure the decision is made, and followed. -/
theorem runFrom_of_error {e : ε} (h : (outcome p.attempt).result = .error e) :
    runFrom clock options description shown draw outcome p now
      = let done := clock.endOfWait now (outcome p.attempt).takes
        let notice := p.notice options description (shown e)
        match p.afterFailure options (draw p.attempt) with
        | .giveUp => ⟨.ok (.error e), [now], [], done, [notice]⟩
        | .breakDown wait? cause =>
          ⟨.error cause, [now], wait?.toList, wait?.elim done (clock.endOfWait done), [notice]⟩
        | .again wait next =>
          let rest := runFrom clock options description shown draw outcome next
            (clock.endOfWait done wait)
          { rest with
            starts := now :: rest.starts, waits := wait :: rest.waits
            notices := notice :: rest.notices } := by
  rw [runFrom]
  simp only [h]
  split
  next hverdict => rw [hverdict]
  next hverdict => rw [hverdict]
  next hverdict => rw [hverdict]

end Steps

variable {clock : Clock}

/-- The run did not break down. -/
def Report.IsComplete (r : Report ε α) : Prop := ∃ result, r.result = .ok result

/-- **A run whose options fit, and whose bounds are not crossed, does not break down.** -/
theorem runFrom_complete (hfit : options.Fit)
    (hbounds : options.minNonzeroWait ≤ options.maxWait) (description : String)
    (shown : ε → String) (draw : Nat → Nat) (p : Progress) (now : Duration) :
    p.InBounds options →
      (runFrom clock options description shown draw outcome p now).IsComplete := by
  induction p, now using runFrom.induct clock options description shown draw outcome with
  | case1 p now a hok =>
    intro _
    rw [runFrom_of_ok hok]
    exact ⟨_, rfl⟩
  | case2 p now e herror hverdict =>
    intro _
    rw [runFrom_of_error herror, hverdict]
    exact ⟨_, rfl⟩
  | case3 p now e herror wait? cause hverdict =>
    intro hp
    rcases hp.of_breakDown hverdict with hcrossed | hunfit
    · exact absurd hbounds (Nat.not_le_of_lt hcrossed)
    · exact absurd hfit hunfit
  | case4 p now done e herror wait next hverdict ih =>
    intro _
    rw [runFrom_of_error herror, hverdict]
    exact ih (Progress.InBounds.next hverdict)

/-- What a run from attempt number `first` at `now` comes to that is decided by one of its attempts:
the result of that attempt, with a wait between any two attempts. -/
structure Report.DecidedFrom (clock : Clock) (options : Options) (outcome : Nat → Attempt ε α)
    (first : Nat) (now : Duration) (r : Report ε α) : Prop where
  decides : Decides options outcome first (first + r.waits.length)
  result_eq : r.result = .ok (outcome (first + r.waits.length)).result
  paced : pace clock outcome first now r.waits = (r.starts, r.ended)

/-- A run that is over with its first attempt is decided by it. -/
theorem DecidedFrom.single {first : Nat} {now : Duration} {result : Except ε α}
    {notices : List Notice} (hresult : (outcome first).result = result)
    (hfirst : first ≤ options.attempts)
    (hsettled : (outcome first).Succeeds ∨ first = options.attempts) :
    Report.DecidedFrom clock options outcome first now
      ⟨.ok result, [now], [], clock.endOfWait now (outcome first).takes, notices⟩ := by
  refine ⟨⟨Nat.le_refl _, hfirst, ?_, hsettled⟩, congrArg Except.ok hresult.symm, rfl⟩
  intro k hle hlt
  exact absurd (Nat.lt_of_le_of_lt hle hlt) (Nat.lt_irrefl _)

/-- A failed attempt with a wait before a run is a part of the run. -/
theorem DecidedFrom.earlier {first : Nat} {now wait : Duration} {e : ε} {rest : Report ε α}
    {notices : List Notice} (hfailed : (outcome first).result = .error e)
    (h : rest.DecidedFrom clock options outcome (first + 1)
      (clock.endOfWait (clock.endOfWait now (outcome first).takes) wait)) :
    Report.DecidedFrom clock options outcome first now
      { rest with
        starts := now :: rest.starts, waits := wait :: rest.waits, notices := notices } := by
  have hlast : first + 1 + rest.waits.length = first + (wait :: rest.waits).length := by
    rw [List.length_cons]
    omega
  obtain ⟨hdecides, hresult, hpaced⟩ := h
  rw [hlast] at hdecides hresult
  refine ⟨hdecides.earlier (Attempt.not_succeeds hfailed), hresult, ?_⟩
  show pace clock outcome first now (wait :: rest.waits) = _
  rw [pace, hpaced]

/-- **A run that does not break down is decided by one of its attempts**: the first that succeeds,
or the last that is allowed. -/
theorem runFrom_decided (description : String) (shown : ε → String) (draw : Nat → Nat)
    (p : Progress) (now : Duration) :
    p.attempt ≤ options.attempts →
      (runFrom clock options description shown draw outcome p now).IsComplete →
        (runFrom clock options description shown draw outcome p now).DecidedFrom clock options
          outcome p.attempt now := by
  induction p, now using runFrom.induct clock options description shown draw outcome with
  | case1 p now a hok =>
    intro hattempt _
    rw [runFrom_of_ok hok]
    exact DecidedFrom.single hok hattempt (.inl ⟨a, hok⟩)
  | case2 p now e herror hverdict =>
    intro hattempt _
    rw [runFrom_of_error herror, hverdict]
    have hlast := Progress.attempts_le_of_giveUp hverdict
    exact DecidedFrom.single herror hattempt (.inr (Nat.le_antisymm hattempt hlast))
  | case3 p now e herror wait? cause hverdict =>
    rw [runFrom_of_error herror, hverdict]
    rintro _ ⟨result, hresult⟩
    cases hresult
  | case4 p now done e herror wait next hverdict ih =>
    rw [runFrom_of_error herror, hverdict]
    intro hattempt hcomplete
    obtain ⟨hmore, hnext, -⟩ := Progress.afterFailure_again hverdict
    rw [hnext] at ih
    exact DecidedFrom.earlier herror (ih (Nat.succ_le_of_lt hmore) hcomplete)

/-- A report of a run that made as many attempts as it took for one to succeed, but no more than are
allowed. -/
structure Report.IsRegular (clock : Clock) (options : Options) (outcome : Nat → Attempt ε α)
    (r : Report ε α) : Prop where
  calls : (r.starts.length : ℕ∞) = min (firstSuccess outcome) (max 1 options.maxAttempts : Nat)
  /-- The result is that of the last attempt. -/
  result_eq : r.result = .ok (outcome r.starts.length).result
  succeeds_iff : (outcome r.starts.length).Succeeds
    ↔ firstSuccess outcome ≤ (max 1 options.maxAttempts : Nat)
  /-- There is a wait between any two attempts, and the run ends with its last attempt. -/
  paced : pace clock outcome 1 0 r.waits = (r.starts, r.ended)

theorem Report.DecidedFrom.isRegular {r : Report ε α}
    (h : r.DecidedFrom clock options outcome 1 0) : r.IsRegular clock options outcome := by
  have hcalls : r.starts.length = 1 + r.waits.length := by
    rw [Nat.add_comm]
    exact length_starts h.paced
  refine ⟨?_, ?_, ?_, h.paced⟩
  · rw [hcalls]
    exact h.decides.eq_min
  · rw [hcalls]
    exact h.result_eq
  · rw [hcalls]
    exact h.decides.succeeds_iff

/-! ## The counter -/

/-- The number after a number, if it has no more than 64 bits. -/
def next? (n : Nat) : Option Nat := if n + 1 < 2 ^ 64 then some (n + 1) else none

namespace Progress

/-- `afterFailure` with a counter of 64 bits. -/
def afterFailureChecked (p : Progress) (options : Options) (draw : Nat) : Option Verdict :=
  match p.afterFailure options draw with
  | .again wait next =>
    (next? p.attempt).map fun attempt => .again wait { next with attempt := attempt }
  | .giveUp => some .giveUp
  | .breakDown wait? cause => some (.breakDown wait? cause)

/-- The attempt that is counted is at most the last, whose number has 64 bits. -/
theorem afterFailureChecked_eq (hattempts : options.maxAttempts < 2 ^ 64) (p : Progress)
    (draw : Nat) :
    p.afterFailureChecked options draw = some (p.afterFailure options draw) := by
  unfold afterFailureChecked
  cases hverdict : p.afterFailure options draw with
  | giveUp => rfl
  | breakDown wait? cause => rfl
  | again wait next =>
    obtain ⟨hmore, hattempt, -⟩ := afterFailure_again hverdict
    have hlast : options.attempts < 2 ^ 64 := Nat.max_lt.mpr ⟨by decide, hattempts⟩
    have hnext : next? p.attempt = some next.attempt := by
      rw [hattempt]
      exact if_pos (Nat.lt_of_le_of_lt hmore hlast)
    rw [hnext]
    rfl

theorem afterFailureChecked_again {p next : Progress} {draw : Nat} {wait : Duration}
    (h : p.afterFailureChecked options draw = some (.again wait next)) :
    p.attempt < options.attempts ∧ next.attempt = p.attempt + 1 := by
  unfold afterFailureChecked at h
  split at h
  next hverdict =>
    obtain ⟨attempt, hattempt, hnext⟩ := Option.map_eq_some_iff.mp h
    cases hnext
    refine ⟨(afterFailure_again hverdict).1, ?_⟩
    unfold next? at hattempt
    split at hattempt
    · exact (Option.some.inj hattempt).symm
    · cases hattempt
  next => cases h
  next => cases h

end Progress

/-- `runFrom` with a counter of 64 bits: there is no report where a number does not fit. -/
def runFromChecked (clock : Clock) (options : Options) (description : String) (shown : ε → String)
    (draw : Nat → Nat) (outcome : Nat → Attempt ε α) (p : Progress) (now : Duration) :
    Option (Report ε α) :=
  let done := clock.endOfWait now (outcome p.attempt).takes
  match (outcome p.attempt).result with
  | .ok a => some ⟨.ok (.ok a), [now], [], done, []⟩
  | .error e =>
    let notice := p.notice options description (shown e)
    match _ : p.afterFailureChecked options (draw p.attempt) with
    | none => none
    | some .giveUp => some ⟨.ok (.error e), [now], [], done, [notice]⟩
    | some (.breakDown wait? cause) =>
      some ⟨.error cause, [now], wait?.toList, wait?.elim done (clock.endOfWait done), [notice]⟩
    | some (.again wait next) =>
      (runFromChecked clock options description shown draw outcome next
          (clock.endOfWait done wait)).map
        fun rest => { rest with
          starts := now :: rest.starts, waits := wait :: rest.waits
          notices := notice :: rest.notices }
termination_by options.attempts - p.attempt
decreasing_by
  have := Progress.afterFailureChecked_again ‹_›
  omega

/-- A run with a counter of 64 bits. -/
def runChecked (clock : Clock) (options : Options) (description : String) (shown : ε → String)
    (draw : Nat → Nat) (outcome : Nat → Attempt ε α) : Option (Report ε α) :=
  runFromChecked clock options description shown draw outcome {} 0

/-- What a checked run does after a failure, once its number has been found to fit. -/
theorem runFromChecked_of_error {description : String} {shown : ε → String} {draw : Nat → Nat}
    {p : Progress} {now : Duration} {e : ε} {verdict : Verdict}
    (h : (outcome p.attempt).result = .error e)
    (hchecked : p.afterFailureChecked options (draw p.attempt) = some verdict) :
    runFromChecked clock options description shown draw outcome p now
      = let done := clock.endOfWait now (outcome p.attempt).takes
        let notice := p.notice options description (shown e)
        match verdict with
        | .giveUp => some ⟨.ok (.error e), [now], [], done, [notice]⟩
        | .breakDown wait? cause =>
          some ⟨.error cause, [now], wait?.toList, wait?.elim done (clock.endOfWait done),
            [notice]⟩
        | .again wait next =>
          (runFromChecked clock options description shown draw outcome next
              (clock.endOfWait done wait)).map
            fun rest => { rest with
              starts := now :: rest.starts, waits := wait :: rest.waits
              notices := notice :: rest.notices } := by
  rw [runFromChecked]
  simp only [h]
  split
  next hnone =>
    rw [hnone] at hchecked
    cases hchecked
  next hsome =>
    rw [hsome] at hchecked
    cases hchecked
    rfl
  next hsome =>
    rw [hsome] at hchecked
    cases hchecked
    rfl
  next hsome =>
    rw [hsome] at hchecked
    cases hchecked
    rfl

/-- **The counter does not overflow**: with one of 64 bits, a run does the same. -/
theorem runFromChecked_eq (hattempts : options.maxAttempts < 2 ^ 64) (description : String)
    (shown : ε → String) (draw : Nat → Nat) (p : Progress) (now : Duration) :
    runFromChecked clock options description shown draw outcome p now
      = some (runFrom clock options description shown draw outcome p now) := by
  induction p, now using runFrom.induct clock options description shown draw outcome with
  | case1 p now a hok =>
    rw [runFrom_of_ok hok, runFromChecked]
    simp only [hok]
  | case2 p now e herror hverdict =>
    have hchecked := Progress.afterFailureChecked_eq hattempts p (draw p.attempt)
    rw [hverdict] at hchecked
    rw [runFrom_of_error herror, runFromChecked_of_error herror hchecked, hverdict]
  | case3 p now e herror wait? cause hverdict =>
    have hchecked := Progress.afterFailureChecked_eq hattempts p (draw p.attempt)
    rw [hverdict] at hchecked
    rw [runFrom_of_error herror, runFromChecked_of_error herror hchecked, hverdict]
  | case4 p now done e herror wait next hverdict ih =>
    have hchecked := Progress.afterFailureChecked_eq hattempts p (draw p.attempt)
    rw [hverdict] at hchecked
    rw [runFrom_of_error herror, runFromChecked_of_error herror hchecked, hverdict]
    dsimp only
    rw [ih]
    rfl

/-! ## The result -/

/-- A run is over with its first attempt if that succeeds or no other is allowed, whatever the
waits are. -/
theorem run_complete_at_once (description : String) (shown : ε → String) (draw : Nat → Nat)
    (h : options.attempts = 1 ∨ (outcome 1).Succeeds) :
    (run clock options description shown draw outcome).IsComplete := by
  cases hresult : (outcome ({} : Progress).attempt).result with
  | ok a =>
    rw [run, runFrom_of_ok hresult]
    exact ⟨_, rfl⟩
  | error e =>
    have honly : options.attempts = 1 := h.resolve_right (Attempt.not_succeeds hresult)
    have hgiveUp : ({} : Progress).afterFailure options (draw 1) = .giveUp :=
      if_pos (Nat.le_of_eq honly)
    rw [run, runFrom_of_error hresult, hgiveUp]
    exact ⟨_, rfl⟩

/-- With crossed bounds a run breaks down after its first failure, once it has waited. -/
theorem run_of_crossed (hfit : options.Fit) (description : String) (shown : ε → String)
    (draw : Nat → Nat) (hcrossed : options.maxWait < options.minNonzeroWait)
    (hmore : 1 < options.attempts) (hfails : ¬ (outcome 1).Succeeds) :
    (run clock options description shown draw outcome).result = .error .crossedBounds
      ∧ (run clock options description shown draw outcome).starts = [0]
      ∧ (run clock options description shown draw outcome).waits
        = [options.jitter (draw 1)] := by
  cases hresult : (outcome ({} : Progress).attempt).result with
  | ok a => exact absurd ⟨a, hresult⟩ hfails
  | error e =>
    rcases ({} : Progress).afterFailure_cases options (draw 1) with
      ⟨hlast, -⟩ | ⟨-, hbounds, -⟩ | ⟨-, -, hbreak⟩ | ⟨-, hlong, -⟩
    · exact absurd hlast (Nat.not_le_of_lt hmore)
    · exact absurd hbounds (Nat.not_le_of_lt hcrossed)
    · rw [run, runFrom_of_error hresult, hbreak]
      refine ⟨rfl, rfl, ?_⟩
      -- before the first retry there is nothing but the jitter
      show [0 + options.jitter (draw 1)] = _
      rw [Nat.zero_add]
    · -- nothing is too long before the first retry
      rcases hlong with hwait | hdouble
      · have hjitter : 0 + options.jitter (draw 1) ≤ Duration.longest := by
          rw [Nat.zero_add]
          exact (options.jitter_le _).trans ((Nat.le_add_left _ _).trans hfit.jitter_le)
        exact absurd hjitter (Nat.not_le_of_lt hwait)
      · exact absurd (Nat.zero_le _) (Nat.not_le_of_lt hdouble)

/-- **How often an action is tried, and what comes of it.** Let the waits be short enough for a span
of time to hold them. If their bounds are not crossed, the attempts go on to the first that succeeds
or to the last that is allowed, whichever is earlier; the result is that of the last attempt, and no
wait follows it. With crossed bounds it is the same as long as one attempt is allowed or the first
succeeds. Otherwise the run breaks down after one attempt and one wait. In no case does the counter
of the attempts outgrow its size. -/
theorem run_calls (clock : Clock) (options : Options) (description : String) (shown : ε → String)
    (draw : Nat → Nat) (outcome : Nat → Attempt ε α) :
    (options.Fit → options.minNonzeroWait ≤ options.maxWait →
        (run clock options description shown draw outcome).IsRegular clock options outcome)
      ∧ (options.maxWait < options.minNonzeroWait →
        (max 1 options.maxAttempts = 1 ∨ (outcome 1).Succeeds →
          (run clock options description shown draw outcome).IsRegular clock options outcome)
        ∧ (options.Fit → 1 < max 1 options.maxAttempts → ¬ (outcome 1).Succeeds →
          (run clock options description shown draw outcome).result = .error .crossedBounds
          ∧ (run clock options description shown draw outcome).starts = [0]
          ∧ (run clock options description shown draw outcome).waits
            = [options.jitter (draw 1)]))
      ∧ (options.maxAttempts < 2 ^ 64 →
        runChecked clock options description shown draw outcome
          = some (run clock options description shown draw outcome)) := by
  have hfirst := Progress.InBounds.first options
  refine ⟨?_, ?_, ?_⟩
  · intro hfit hbounds
    refine (runFrom_decided description shown draw {} 0 hfirst.attempt_le ?_).isRegular
    exact runFrom_complete hfit hbounds description shown draw {} 0 hfirst
  · intro hcrossed
    refine ⟨?_, ?_⟩
    · intro hshort
      refine (runFrom_decided description shown draw {} 0 hfirst.attempt_le ?_).isRegular
      exact run_complete_at_once description shown draw hshort
    · intro hfit hmore hfails
      exact run_of_crossed hfit description shown draw hcrossed hmore hfails
  · intro hattempts
    exact runFromChecked_eq hattempts description shown draw {} 0

/-- A clock that can be set as far as one likes. -/
def plainClock : Clock where
  endOfWait now span := now + span

/-- Five attempts with short waits. -/
def fiveAttempts : Options where
  maxAttempts := 5
  minNonzeroWait := .ofMillis 10
  maxWait := .ofMillis 40
  maxJitter := 5

/-- The same with crossed bounds. -/
def crossedBounds : Options := { fiveAttempts with maxWait := .ofMillis 5 }

/-- An action that succeeds the third time. -/
def thirdTime (k : Nat) : Attempt String Nat where
  result := if k < 3 then .error "not yet" else .ok k

/-- The third attempt of five is the last; with crossed bounds the first is, and a single one that
is allowed fails. -/
theorem run_calls_thirdTime :
    fiveAttempts.Fit ∧ fiveAttempts.minNonzeroWait ≤ fiveAttempts.maxWait
      ∧ (run plainClock fiveAttempts "count" id (fun _ => 7) thirdTime).IsRegular plainClock
        fiveAttempts thirdTime
      ∧ (run plainClock fiveAttempts "count" id (fun _ => 7) thirdTime).starts.length = 3
      ∧ crossedBounds.Fit ∧ crossedBounds.maxWait < crossedBounds.minNonzeroWait
      ∧ 1 < max 1 crossedBounds.maxAttempts ∧ ¬ (thirdTime 1).Succeeds
      ∧ (run plainClock crossedBounds "count" id (fun _ => 7) thirdTime).result
        = .error .crossedBounds
      ∧ (run plainClock crossedBounds "count" id (fun _ => 7) thirdTime).waits = [2]
      ∧ (run plainClock { crossedBounds with maxAttempts := 0 } "count" id (fun _ => 7)
          thirdTime).IsRegular plainClock { crossedBounds with maxAttempts := 0 } thirdTime
      ∧ runChecked plainClock fiveAttempts "count" id (fun _ => 7) thirdTime
        = some (run plainClock fiveAttempts "count" id (fun _ => 7) thirdTime) := by
  have hbounds : fiveAttempts.minNonzeroWait ≤ fiveAttempts.maxWait := by decide
  have hcrossed : crossedBounds.maxWait < crossedBounds.minNonzeroWait := by decide
  have hmore : 1 < max 1 crossedBounds.maxAttempts := by decide
  have hfails : ¬ (thirdTime 1).Succeeds := Attempt.not_succeeds rfl
  have hfit : fiveAttempts.Fit := ⟨by decide, by decide, by decide⟩
  have hfitCrossed : crossedBounds.Fit := ⟨by decide, by decide, by decide⟩
  obtain ⟨hregular, -, hchecked⟩ :=
    run_calls plainClock fiveAttempts "count" id (fun _ => 7) thirdTime
  obtain ⟨hbroken, -, hwaits⟩ := ((run_calls plainClock crossedBounds "count" id (fun _ => 7)
    thirdTime).2.1 hcrossed).2 hfitCrossed hmore hfails
  have hsingle := ((run_calls plainClock { crossedBounds with maxAttempts := 0 } "count" id
    (fun _ => 7) thirdTime).2.1 hcrossed).1 (.inl rfl)
  exact ⟨hfit, hbounds, hregular hfit hbounds, by decide +kernel, hfitCrossed, hcrossed, hmore,
    hfails, hbroken, hwaits, hsingle, hchecked hfit.maxAttempts_lt⟩

end Retry

end SmartAccount
