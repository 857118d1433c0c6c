import Mathlib.Algebra.Order.BigOperators.Group.List
import Mathlib.Order.Monotone.Basic
import SmartAccount.Proofs.Retry
/-!
# How long is waited between attempts

Jitter apart, the wait after an attempt depends on the number of the attempt alone: none after the
first, then the shortest one that is not zero, then always twice the one before, until the longest
one cuts it off (`Options.baseWait`). A run does not compute it so. It carries the wait along and
doubles what it may have cut off already, which comes to the same, because a wait that was cut off
is cut off again when it is doubled (`Options.nextWait_baseWait`).

So a run is *in step*: the wait it carries is the one of the attempt that it makes
(`Progress.InStep`). Each decision keeps it in step and waits as long as the number of the attempt
says (`Progress.InStep.again`); the waits of a whole run follow by induction (`runFrom_waits`), and
everything else from the shape of `baseWait`.
-/

namespace SmartAccount

namespace Retry

namespace Options

/-! ## The wait after an attempt -/

/-- The wait after attempt number `k`, counted from one and without jitter. -/
def baseWait (options : Options) : (k : Nat) → Duration
  | 0 => 0
  | 1 => 0
  | k + 2 => min options.maxWait (options.minNonzeroWait * 2 ^ k)

variable {options : Options}

/-- Doubling a wait that was cut off and cutting off the double is doubling first and cutting off
once. -/
theorem max_min_double {low high wait : Nat} (hbounds : low ≤ high) (hlow : low ≤ wait) :
    max low (min (2 * min high wait) high) = min high (2 * wait) := by
  omega

/-- The wait that follows the wait of an attempt is the one of the next attempt. -/
theorem nextWait_baseWait (hbounds : options.minNonzeroWait ≤ options.maxWait) {k : Nat}
    (hk : 1 ≤ k) :
    max options.minNonzeroWait (min (2 * options.baseWait k) options.maxWait)
      = options.baseWait (k + 1) := by
  match k, hk with
  | 1, _ =>
    show max options.minNonzeroWait (min (2 * 0) options.maxWait)
      = min options.maxWait (options.minNonzeroWait * 2 ^ 0)
    rw [Nat.mul_zero, Nat.zero_min, Nat.max_zero, Nat.pow_zero, Nat.mul_one,
      Nat.min_eq_right hbounds]
  | k + 2, _ =>
    have hdouble : options.minNonzeroWait * 2 ^ (k + 1)
        = 2 * (options.minNonzeroWait * 2 ^ k) := by
      rw [Nat.pow_succ, ← Nat.mul_assoc, Nat.mul_comm]
    have hlow : options.minNonzeroWait ≤ options.minNonzeroWait * 2 ^ k :=
      Nat.le_mul_of_pos_right _ (Nat.two_pow_pos k)
    show max options.minNonzeroWait
        (min (2 * min options.maxWait (options.minNonzeroWait * 2 ^ k)) options.maxWait)
      = min options.maxWait (options.minNonzeroWait * 2 ^ (k + 1))
    rw [max_min_double hbounds hlow, hdouble]

theorem baseWait_le_maxWait (k : Nat) : options.baseWait k ≤ options.maxWait := by
  match k with
  | 0 => exact Nat.zero_le _
  | 1 => exact Nat.zero_le _
  | k + 2 => exact Nat.min_le_left _ _

theorem minNonzeroWait_le_baseWait (hbounds : options.minNonzeroWait ≤ options.maxWait) {k : Nat}
    (hk : 2 ≤ k) : options.minNonzeroWait ≤ options.baseWait k := by
  obtain ⟨k, rfl⟩ := Nat.exists_eq_add_of_le' hk
  exact Nat.le_min.mpr ⟨hbounds, Nat.le_mul_of_pos_right _ (Nat.two_pow_pos k)⟩

theorem monotone_baseWait (options : Options) : Monotone options.baseWait := by
  refine monotone_nat_of_le_succ fun k => ?_
  match k with
  | 0 => exact Nat.le_refl _
  | 1 => exact Nat.zero_le _
  | k + 2 =>
    have hpow : 2 ^ k ≤ 2 ^ (k + 1) := Nat.pow_le_pow_right (by decide) (Nat.le_succ k)
    exact min_le_min_left _ (Nat.mul_le_mul_left _ hpow)

/-- The jitter stays below its bound. Without a bound to stay below there is none. -/
theorem jitter_bounds (options : Options) (draw : Nat) :
    (options.maxJitter = 0 → options.jitter draw = 0)
      ∧ (options.maxJitter ≠ 0 → options.jitter draw < options.maxJitter) := by
  unfold jitter
  refine ⟨fun h => if_pos h, fun h => ?_⟩
  rw [if_neg h]
  exact Nat.mod_lt _ (Nat.pos_of_ne_zero h)

end Options

/-! ## Runs in step -/

variable {ε α : Type} {clock : Clock} {options : Options} {outcome : Nat → Attempt ε α}

/-- The wait that a run carries is the one of the attempt that it makes. -/
structure Progress.InStep (options : Options) (p : Progress) : Prop where
  counted : 1 ≤ p.attempt
  wait_eq : p.wait = options.baseWait p.attempt

/-- A run in step waits as the number of the attempt says, and stays in step. -/
theorem Progress.InStep.again {p next : Progress} {draw : Nat} {wait : Duration}
    (hp : p.InStep options) (h : p.afterFailure options draw = .again wait next) :
    wait = options.baseWait p.attempt + options.jitter draw ∧ next.InStep options := by
  obtain ⟨-, hattempt, hbounds, hwait, hnext⟩ := Progress.afterFailure_again h
  refine ⟨by rw [hwait, hp.wait_eq], ?_, ?_⟩
  · rw [hattempt]
    exact Nat.le_succ_of_le hp.counted
  · rw [hnext, hattempt, hp.wait_eq]
    exact Options.nextWait_baseWait hbounds hp.counted

/-- **The waits of a run in step**: each depends on the number of its attempt, and on its draw. -/
theorem runFrom_waits (description : String) (shown : ε → String) (draw : Nat → Nat)
    (p : Progress) (now : Duration) :
    p.InStep options →
      (runFrom clock options description shown draw outcome p now).IsComplete →
        ∀ k (hk : k < (runFrom clock options description shown draw outcome p now).waits.length),
          (runFrom clock options description shown draw outcome p now).waits[k]
            = options.baseWait (p.attempt + k) + options.jitter (draw (p.attempt + k)) := by
  induction p, now using runFrom.induct clock options description shown draw outcome with
  | case1 p now a hok =>
    rw [runFrom_of_ok hok]
    intro _ _ k hk
    exact absurd hk (Nat.not_lt_zero k)
  | case2 p now e herror hverdict =>
    rw [runFrom_of_error herror, hverdict]
    intro _ _ k hk
    exact absurd hk (Nat.not_lt_zero k)
  | case3 p now e herror wait? cause hverdict =>
    rw [runFrom_of_error herror, hverdict]
    rintro _ ⟨result, hresult⟩
    cases hresult
  | case4 p now done e herror wait next hverdict ih =>
    rw [runFrom_of_error herror, hverdict]
    intro hp hcomplete k hk
    obtain ⟨hwait, hnext⟩ := hp.again hverdict
    obtain ⟨-, hattempt, -⟩ := Progress.afterFailure_again hverdict
    cases k with
    | zero => exact hwait
    | succ k =>
      -- the rest of the run counts its waits from the next attempt
      have hlater := ih hnext hcomplete k (Nat.lt_of_succ_lt_succ hk)
      rw [hattempt, Nat.add_right_comm] at hlater
      exact hlater

/-! ## The result -/

/-- A report of a run that backs off: the waits are those of its attempts, each with a jitter of its
own. -/
structure Report.BacksOff (clock : Clock) (options : Options) (outcome : Nat → Attempt ε α)
    (r : Report ε α) : Prop where
  /-- Each wait stands between two attempts, in the order of the attempts. -/
  paced : pace clock outcome 1 0 r.waits = (r.starts, r.ended)
  wait_eq : ∀ k (hk : k < r.waits.length), ∃ jitter, r.waits[k] = options.baseWait (k + 1) + jitter
    ∧ (options.maxJitter = 0 → jitter = 0) ∧ (options.maxJitter ≠ 0 → jitter < options.maxJitter)

/-- No wait is longer than the longest one with the longest jitter. -/
theorem Report.BacksOff.wait_le {r : Report ε α} (h : r.BacksOff clock options outcome)
    {wait : Duration} (hwait : wait ∈ r.waits) : wait ≤ options.maxWait + options.maxJitter := by
  obtain ⟨k, hk, rfl⟩ := List.mem_iff_getElem.mp hwait
  obtain ⟨jitter, heq, hnone, hsome⟩ := h.wait_eq k hk
  have hjitter : jitter ≤ options.maxJitter := by
    by_cases hzero : options.maxJitter = 0
    · rw [hnone hzero]
      exact Nat.zero_le _
    · exact Nat.le_of_lt (hsome hzero)
  rw [heq]
  exact Nat.add_le_add (Options.baseWait_le_maxWait _) hjitter

/-- All waits together: as many as there are attempts, less one, and none too long. -/
theorem Report.BacksOff.total_le {r : Report ε α} (h : r.BacksOff clock options outcome) :
    r.waits.sum ≤ (r.starts.length - 1) * (options.maxWait + options.maxJitter) := by
  rw [length_starts h.paced, Nat.add_sub_cancel]
  exact List.sum_le_card_nsmul r.waits _ fun _ hwait => h.wait_le hwait

theorem run_backsOff {description : String} {shown : ε → String} {draw : Nat → Nat}
    (hcomplete : (run clock options description shown draw outcome).IsComplete) :
    (run clock options description shown draw outcome).BacksOff clock options outcome := by
  have hfirst := Progress.InBounds.first options
  refine ⟨(runFrom_decided description shown draw {} 0 hfirst.attempt_le hcomplete).paced, ?_⟩
  intro k hk
  have hwait := runFrom_waits description shown draw {} 0 ⟨Nat.le_refl 1, rfl⟩ hcomplete k hk
  rw [show ({} : Progress).attempt + k = k + 1 from Nat.add_comm 1 k] at hwait
  exact ⟨_, hwait, options.jitter_bounds _⟩

/-- **How long is waited between attempts.** After attempt number `k` a run waits for `baseWait k`
and for a jitter below its bound. These waits never decrease, and from the second on they lie
between the shortest and the longest; all waits of `n` attempts together take at most `n - 1` times
the longest wait with the longest jitter. No span that comes up is too long, as the run does not
break down. -/
theorem run_waits (clock : Clock) (options : Options) (description : String) (shown : ε → String)
    (draw : Nat → Nat) (outcome : Nat → Attempt ε α)
    (hbounds : options.minNonzeroWait ≤ options.maxWait) (hfit : options.Fit) :
    (run clock options description shown draw outcome).BacksOff clock options outcome
      ∧ Monotone options.baseWait
      ∧ (∀ k, 2 ≤ k →
        options.minNonzeroWait ≤ options.baseWait k ∧ options.baseWait k ≤ options.maxWait)
      ∧ (run clock options description shown draw outcome).waits.sum
        ≤ ((run clock options description shown draw outcome).starts.length - 1)
          * (options.maxWait + options.maxJitter)
      ∧ (∃ result, (run clock options description shown draw outcome).result = .ok result)
      ∧ runChecked clock options description shown draw outcome
        = some (run clock options description shown draw outcome) := by
  have hcomplete : (run clock options description shown draw outcome).IsComplete :=
    runFrom_complete hfit hbounds description shown draw {} 0 (Progress.InBounds.first options)
  have hbacksOff := run_backsOff hcomplete
  refine ⟨hbacksOff, options.monotone_baseWait, ?_, hbacksOff.total_le, hcomplete, ?_⟩
  · intro k hk
    exact ⟨Options.minNonzeroWait_le_baseWait hbounds hk, Options.baseWait_le_maxWait k⟩
  · exact runFromChecked_eq hfit.maxAttempts_lt description shown draw {} 0

/-- An action that fails whenever it is tried. -/
def neverDone (_ : Nat) : Attempt String Nat := ⟨.error "no", 3⟩

/-- Five attempts in vain: the second wait is the shortest that is not zero, the fourth the
longest. -/
theorem run_waits_neverDone :
    fiveAttempts.minNonzeroWait ≤ fiveAttempts.maxWait ∧ fiveAttempts.Fit
      ∧ (run plainClock fiveAttempts "count" id (fun _ => 7) neverDone).BacksOff plainClock
        fiveAttempts neverDone
      ∧ (run plainClock fiveAttempts "count" id (fun _ => 7) neverDone).waits
        = [2, 10000002, 20000002, 40000002]
      ∧ (run plainClock fiveAttempts "count" id (fun _ => 7) neverDone).waits.sum
        ≤ ((run plainClock fiveAttempts "count" id (fun _ => 7) neverDone).starts.length - 1)
          * (fiveAttempts.maxWait + fiveAttempts.maxJitter) := by
  have hbounds : fiveAttempts.minNonzeroWait ≤ fiveAttempts.maxWait := by decide
  have hfit : fiveAttempts.Fit := ⟨by decide, by decide, by decide⟩
  obtain ⟨hbacksOff, -, -, htotal, -, -⟩ :=
    run_waits plainClock fiveAttempts "count" id (fun _ => 7) neverDone hbounds hfit
  exact ⟨hbounds, hfit, hbacksOff, by decide +kernel, htotal⟩

end Retry

end SmartAccount
