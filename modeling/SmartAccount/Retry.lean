import SmartAccount.Notice
import SmartAccount.Numeral
/-!
# Trying again

An action that may fail is tried a limited number of times, with a wait after every failure but
the last. The first retry follows at once, the next wait is the shortest one that is not zero,
and each further wait is twice the one before, up to an upper bound. A random jitter is added to
each wait, so that many clients that failed together do not come back together.

Spans of time are limited, and a sum or a double that is longer than the longest span breaks a run
down, as crossed bounds of the waits do.

`Progress.afterFailure` is the whole decision: it is a function of the settings, of the attempt
that failed and of one random draw. `run` follows it over a stream of outcomes.
-/

namespace SmartAccount

/-- A span of time in nanoseconds. Those that are worked out of others are at most as long as
`Duration.longest`. -/
abbrev Duration := Nat

namespace Duration

def ofMillis (ms : Nat) : Duration := ms * 1000000

def ofSeconds (s : Nat) : Duration := s * 1000000000

/-- The whole milliseconds of a span. -/
def millis (d : Duration) : Nat := d / 1000000

/-- The longest span: one nanosecond less than 2^64 seconds. -/
def longest : Duration := .ofSeconds 18446744073709551616 - 1

/-- The sum of two spans, if it is a span. -/
def add? (a b : Duration) : Option Duration :=
  if a + b ≤ longest then some (a + b) else none

/-- The double of a span, if it is a span. -/
def double? (d : Duration) : Option Duration :=
  if 2 * d ≤ longest then some (2 * d) else none

end Duration

/-- A clock that can be set to wait. How far it can be set is its own affair. -/
structure Clock where
  /-- When a wait of the length `span` ends that begins at `now`. -/
  endOfWait : (now span : Duration) → Duration

namespace Retry

/-- How often to try and how long to wait. -/
structure Options where
  /-- How many attempts to make, the first one included. At least one is made in any case. -/
  maxAttempts : Nat := 10
  /-- The wait after the second failure, and the least one from there on. -/
  minNonzeroWait : Duration := .ofSeconds 1
  /-- The longest wait, jitter not counted. -/
  maxWait : Duration := .ofSeconds 10
  /-- What the jitter stays below. -/
  maxJitter : Duration := .ofSeconds 1

namespace Options

/-- The number of attempts that are made at most. -/
def attempts (options : Options) : Nat := max 1 options.maxAttempts

/-- The jitter that a random draw stands for: none where no jitter is wanted, else less than the
bound. -/
def jitter (options : Options) (draw : Nat) : Duration :=
  if options.maxJitter = 0 then 0 else draw % options.maxJitter

end Options

/-- Why a run of attempts cannot go on after a failure. -/
inductive BreakDown where
  /-- The wait and its jitter together are longer than the longest span. -/
  | longWait
  /-- The double of the wait is longer than the longest span. -/
  | longDouble
  /-- The shortest wait is longer than the longest. -/
  | crossedBounds
  deriving DecidableEq

/-- What a run says when it breaks down. -/
def BreakDown.message : BreakDown → String
  | .longWait => "overflow when adding durations"
  | .longDouble => "overflow when multiplying duration by scalar"
  | .crossedBounds => "assertion failed: min <= max"

/-- The wait that follows a wait: its double, kept between the two bounds. -/
def Options.nextWait (options : Options) (wait : Duration) : Except BreakDown Duration :=
  match wait.double? with
  | none => .error .longDouble
  | some double =>
    if options.minNonzeroWait ≤ options.maxWait then
      .ok (max options.minNonzeroWait (min double options.maxWait))
    else .error .crossedBounds

/-- Where a run of attempts stands: the number of the attempt that is being made, from one, and
the wait that would follow its failure, jitter not counted. -/
structure Progress where
  attempt : Nat := 1
  wait : Duration := 0
  deriving DecidableEq

/-- What to do after a failure. -/
inductive Verdict where
  /-- No attempt is left: the failure is the result. -/
  | giveUp
  /-- Wait, then make the next attempt. -/
  | again (wait : Duration) (next : Progress)
  /-- Break down: at once if not even the wait can be worked out, else once it is over. -/
  | breakDown (wait? : Option Duration) (cause : BreakDown)
  deriving DecidableEq

namespace Progress

/-- The decision after the current attempt has failed. -/
def afterFailure (p : Progress) (options : Options) (draw : Nat) : Verdict :=
  if options.attempts ≤ p.attempt then .giveUp
  else
    match p.wait.add? (options.jitter draw) with
    | none => .breakDown none .longWait
    | some wait =>
      match options.nextWait p.wait with
      | .ok next => .again wait ⟨p.attempt + 1, next⟩
      | .error cause => .breakDown (some wait) cause

/-- Everything that can follow a failure: the run gives up, waits for its next attempt, breaks down
after one wait as the bounds are crossed, or breaks down over a span that is too long. -/
theorem afterFailure_cases (p : Progress) (options : Options) (draw : Nat) :
    (options.attempts ≤ p.attempt ∧ p.afterFailure options draw = .giveUp)
      ∨ (p.attempt < options.attempts ∧ options.minNonzeroWait ≤ options.maxWait
        ∧ p.afterFailure options draw = .again (p.wait + options.jitter draw)
            ⟨p.attempt + 1, max options.minNonzeroWait (min (2 * p.wait) options.maxWait)⟩)
      ∨ (p.attempt < options.attempts ∧ options.maxWait < options.minNonzeroWait
        ∧ p.afterFailure options draw
          = .breakDown (some (p.wait + options.jitter draw)) .crossedBounds)
      ∨ (p.attempt < options.attempts
        ∧ (Duration.longest < p.wait + options.jitter draw ∨ Duration.longest < 2 * p.wait)
        ∧ ∃ wait? cause, p.afterFailure options draw = .breakDown wait? cause) := by
  by_cases hlast : options.attempts ≤ p.attempt
  · exact .inl ⟨hlast, if_pos hlast⟩
  · have hmore := Nat.lt_of_not_le hlast
    refine .inr ?_
    unfold afterFailure
    rw [if_neg hlast]
    by_cases hwait : p.wait + options.jitter draw ≤ Duration.longest
    · rw [Duration.add?, if_pos hwait]
      unfold Options.nextWait
      by_cases hdouble : 2 * p.wait ≤ Duration.longest
      · rw [Duration.double?, if_pos hdouble]
        by_cases hbounds : options.minNonzeroWait ≤ options.maxWait
        · dsimp only
          rw [if_pos hbounds]
          exact .inl ⟨hmore, hbounds, rfl⟩
        · dsimp only
          rw [if_neg hbounds]
          exact .inr (.inl ⟨hmore, Nat.lt_of_not_le hbounds, rfl⟩)
      · rw [Duration.double?, if_neg hdouble]
        exact .inr (.inr ⟨hmore, .inr (Nat.lt_of_not_le hdouble), _, _, rfl⟩)
    · rw [Duration.add?, if_neg hwait]
      exact .inr (.inr ⟨hmore, .inl (Nat.lt_of_not_le hwait), _, _, rfl⟩)

theorem afterFailure_again {p next : Progress} {options : Options} {draw : Nat}
    {wait : Duration} (h : p.afterFailure options draw = .again wait next) :
    p.attempt < options.attempts ∧ next.attempt = p.attempt + 1
      ∧ options.minNonzeroWait ≤ options.maxWait ∧ wait = p.wait + options.jitter draw
      ∧ next.wait = max options.minNonzeroWait (min (2 * p.wait) options.maxWait) := by
  rcases p.afterFailure_cases options draw with
    ⟨-, hgiveUp⟩ | ⟨hmore, hbounds, hagain⟩ | ⟨-, -, hbreak⟩ | ⟨-, -, _, _, hbreak⟩
  · rw [h] at hgiveUp
    cases hgiveUp
  · rw [h] at hagain
    cases hagain
    exact ⟨hmore, rfl, hbounds, rfl, rfl⟩
  · rw [h] at hbreak
    cases hbreak
  · rw [h] at hbreak
    cases hbreak

/-- What the operator reads about a failed attempt. -/
def notice (p : Progress) (options : Options) (description error : String) : Notice where
  level := .warn
  text :=
    if options.attempts ≤ p.attempt then
      "Failed to " ++ description ++ " after " ++ Numeral.decimal p.attempt ++ " attempts: "
        ++ error
    else
      "Failed to " ++ description ++ " (attempt " ++ Numeral.decimal p.attempt ++ "): " ++ error

end Progress

/-- How one attempt goes: its result and the time it takes. -/
structure Attempt (ε α : Type) where
  result : Except ε α
  takes : Duration := 0

/-- What a run of attempts comes to. -/
structure Report (ε α : Type) where
  /-- The result, or why the run broke down. -/
  result : Except BreakDown (Except ε α)
  /-- When each attempt started. -/
  starts : List Duration
  /-- How long it waited after each failure that it waited after. -/
  waits : List Duration
  /-- When the run ended. -/
  ended : Duration
  notices : List Notice

/-- A run from the attempt `p`, which starts at `now`. Attempt number `k` goes as
`outcome k` says, and `draw k` is the random draw after it. -/
def runFrom {ε α : Type} (clock : Clock) (options : Options) (description : String)
    (shown : ε → String) (draw : Nat → Nat) (outcome : Nat → Attempt ε α) (p : Progress)
    (now : Duration) : Report ε α :=
  let done := clock.endOfWait now (outcome p.attempt).takes
  match (outcome p.attempt).result with
  | .ok a => ⟨.ok (.ok a), [now], [], done, []⟩
  | .error e =>
    let notice := p.notice options description (shown e)
    match _ : p.afterFailure options (draw p.attempt) with
    | .giveUp => ⟨.ok (.error e), [now], [], done, [notice]⟩
    | .breakDown wait? cause =>
      ⟨.error cause, [now], wait?.toList, wait?.elim done (clock.endOfWait done), [notice]⟩
    | .again wait next =>
      let rest := runFrom clock options description shown draw outcome next
        (clock.endOfWait done wait)
      { rest with
        starts := now :: rest.starts, waits := wait :: rest.waits
        notices := notice :: rest.notices }
termination_by options.attempts - p.attempt
decreasing_by
  have := Progress.afterFailure_again ‹_›
  omega

/-- A run from its first attempt, which starts at time zero. -/
def run {ε α : Type} (clock : Clock) (options : Options) (description : String)
    (shown : ε → String) (draw : Nat → Nat) (outcome : Nat → Attempt ε α) : Report ε α :=
  runFrom clock options description shown draw outcome {} 0

end Retry

end SmartAccount
