import SmartAccount.Watcher.Query
/-!
# The course of a query

What a query does shows in the requests that it makes and in the answers that it gets. Whoever
answers them is a world of some state `σ`, which a request, a wait, a drawn number and a notice may
all change. `Query.course` runs a query in such a world and writes down every request with its
answer; nothing else changes by that (`course_outcome`).

Facts about whole queries come from one rule: what every step keeps holds at the end
(`run_recorded_spec`). The induction over the loop is made there and nowhere else.
-/

namespace SmartAccount

/-- A request for logs and what came back for it. -/
structure Reply (ε : Type) where
  filter : Filter
  answer : Except ε (List Log)

/-- The logs that came back; none came with a failure. -/
def Reply.logs {ε : Type} (r : Reply ε) : List Log :=
  match r.answer with
  | .ok logs => logs
  | .error _ => []

namespace Query

variable {σ ε : Type}

/-- The request for the current stretch with its answer. -/
def reply (settings : WatchSettings) (subject : Subject) (q : Query)
    (answer : Except ε (List Log)) : Reply ε := ⟨q.filter settings subject, answer⟩

/-- The same means with a record beside them of every request and its answer, the oldest
first. -/
def Means.recorded {m : Type → Type} [Monad m] (means : Means m ε) :
    Means (StateT (List (Reply ε)) m) ε where
  ask filter := do
    let answer ← means.ask filter
    modify (· ++ [⟨filter, answer⟩])
    return answer
  wait span := means.wait span
  draw := means.draw
  tell notices := means.tell notices
  shown := means.shown

/-- Whatever state the world is in, it answers a request as `allowed` says. -/
def Means.Answers (means : Means (StateM σ) ε) (allowed : Filter → Except ε (List Log) → Prop) :
    Prop :=
  ∀ filter world, allowed filter ((means.ask filter).run world).1

/-- The world answers every request for logs. -/
def Means.AlwaysAnswers (means : Means (StateM σ) ε) : Prop :=
  means.Answers fun _ answer => ∃ logs, answer = .ok logs

/-- How a query went: what it came to, and its requests with their answers, the oldest first. -/
structure Course (ε : Type) where
  outcome : Outcome ε
  replies : List (Reply ε)

/-- The course of a query for the blocks from `first` to `last` in a world. -/
def course (means : Means (StateM σ) ε) (settings : WatchSettings) (subject : Subject)
    (first last : BlockNumber) (world : σ) : Course ε :=
  let ((outcome, replies), _) :=
    ((runRange means.recorded settings subject first last).run []).run world
  ⟨outcome, replies⟩

/-- An empty range asks nothing and finds nothing. -/
theorem course_of_lt {means : Means (StateM σ) ε} {settings : WatchSettings} {subject : Subject}
    {first last : BlockNumber} (hempty : last < first) (world : σ) :
    course means settings subject first last world = ⟨.found [], []⟩ := by
  unfold course runRange
  rw [if_pos hempty]
  rfl

/-! ## One step, then all of them -/

/-- What is left of a query after an answer. -/
def Next.rest {m : Type → Type} [Monad m] (means : Means m ε) (settings : WatchSettings)
    (subject : Subject) : Next ε → m (Outcome ε)
  | .onward q => run means settings subject q
  | .again wait q => do
    means.wait wait
    run means settings subject q
  | .done events => return .found events
  | .failed e => return .failed e
  | .breakDown wait? cause => do
    wait?.forM means.wait
    return .brokenDown cause

/-- A query is one request and what its answer leads to. -/
theorem run_eq {m : Type → Type} [Monad m] (means : Means m ε) (settings : WatchSettings)
    (subject : Subject) (q : Query) :
    run means settings subject q = (do
      let answer ← means.ask (q.filter settings subject)
      means.tell (q.notices settings subject means.shown answer)
      let draw ← means.draw
      (q.afterAnswer settings subject draw answer).rest means settings subject) := by
  rw [run]
  congr 1
  funext answer
  congr 1
  funext _
  congr 1
  funext draw
  split
  next h => rw [h]; rfl
  next h => rw [h]; rfl
  next h => rw [h]; rfl
  next h => rw [h]; rfl
  next h => rw [h]; rfl

/-- What holds of the query that a step leads to, or of the outcome that it ends with. -/
def Next.Leads (Inv : Query → Prop) (Post : Outcome ε → Prop) : Next ε → Prop
  | .onward q => Inv q
  | .again _ q => Inv q
  | .done events => Post (.found events)
  | .failed e => Post (.failed e)
  | .breakDown _ cause => Post (.brokenDown cause)

/-- **What every step keeps holds at the end.** The world answers as `allowed` says; `Inv` is about
a query on its way and the record so far, `Post` about an outcome and the whole record. The
outcome is the same without a record. -/
theorem run_recorded_spec {means : Means (StateM σ) ε} {settings : WatchSettings}
    {subject : Subject} {allowed : Filter → Except ε (List Log) → Prop}
    (Inv : Query → List (Reply ε) → Prop) (Post : Outcome ε → List (Reply ε) → Prop)
    (hanswers : means.Answers allowed)
    (hstep : ∀ q record draw answer, Inv q record → allowed (q.filter settings subject) answer →
      (q.afterAnswer settings subject draw answer).Leads
        (Inv · (record ++ [q.reply settings subject answer]))
        (Post · (record ++ [q.reply settings subject answer])))
    (q : Query) : ∀ (record : List (Reply ε)) (world : σ), Inv q record →
      ∃ outcome replies world',
        ((run means.recorded settings subject q).run record).run world
            = ((outcome, replies), world')
          ∧ (run means settings subject q).run world = (outcome, world')
          ∧ Post outcome replies := by
  induction q using run.induct (ε := ε) settings subject with
  | case1 q ihAgain ihOnward =>
    intro record world hinv
    rw [run_eq, run_eq]
    -- the world once it was asked, told and made to draw a number
    let asked := (means.ask (q.filter settings subject)).run world
    let told := (means.tell (q.notices settings subject means.shown asked.1)).run asked.2
    let drawn := means.draw.run told.2
    have hleads := hstep q record drawn.1 asked.1 hinv (hanswers _ world)
    generalize hrecord : record ++ [q.reply settings subject asked.1] = record' at hleads
    show ∃ outcome replies world',
      (((q.afterAnswer settings subject drawn.1 asked.1).rest means.recorded settings subject).run
          (record ++ [q.reply settings subject asked.1])).run drawn.2
          = ((outcome, replies), world')
        ∧ ((q.afterAnswer settings subject drawn.1 asked.1).rest means settings subject).run drawn.2
          = (outcome, world')
        ∧ Post outcome replies
    rw [hrecord]
    cases hnext : q.afterAnswer settings subject drawn.1 asked.1 with
    | onward next =>
      rw [hnext] at hleads
      exact ihOnward asked.1 drawn.1 next hnext record' drawn.2 hleads
    | again wait next =>
      rw [hnext] at hleads
      exact ihAgain asked.1 drawn.1 wait next hnext record' ((means.wait wait).run drawn.2).2 hleads
    | done events =>
      rw [hnext] at hleads
      exact ⟨_, _, _, rfl, rfl, hleads⟩
    | failed e =>
      rw [hnext] at hleads
      exact ⟨_, _, _, rfl, rfl, hleads⟩
    | breakDown wait? cause =>
      rw [hnext] at hleads
      -- it may break down with or without a wait
      cases wait? with
      | none => exact ⟨_, _, _, rfl, rfl, hleads⟩
      | some wait => exact ⟨_, _, _, rfl, rfl, hleads⟩

/-- The same for the course of a query whose range is not empty. -/
theorem course_spec {means : Means (StateM σ) ε} {settings : WatchSettings} {subject : Subject}
    {allowed : Filter → Except ε (List Log) → Prop}
    (Inv : Query → List (Reply ε) → Prop) (Post : Outcome ε → List (Reply ε) → Prop)
    (hanswers : means.Answers allowed)
    (hstep : ∀ q record draw answer, Inv q record → allowed (q.filter settings subject) answer →
      (q.afterAnswer settings subject draw answer).Leads
        (Inv · (record ++ [q.reply settings subject answer]))
        (Post · (record ++ [q.reply settings subject answer])))
    {first last : BlockNumber} (hrange : first ≤ last)
    (hstart : Inv { first := first, last := last } []) (world : σ) :
    Post (course means settings subject first last world).outcome
      (course means settings subject first last world).replies := by
  obtain ⟨outcome, replies, world', hrecorded, -, hpost⟩ :=
    run_recorded_spec Inv Post hanswers hstep _ [] world hstart
  unfold course runRange
  rw [if_neg (BitVec.not_lt.mpr hrange), hrecorded]
  exact hpost

/-- The record changes nothing. -/
theorem course_outcome (means : Means (StateM σ) ε) (settings : WatchSettings) (subject : Subject)
    (first last : BlockNumber) (world : σ) :
    (course means settings subject first last world).outcome
      = ((runRange means settings subject first last).run world).1 := by
  have hanswers : means.Answers fun _ _ => True := fun _ _ => trivial
  obtain ⟨outcome, replies, world', hrecorded, hplain, -⟩ :=
    run_recorded_spec (fun _ _ => True) (fun _ _ => True) hanswers
      (fun q _ draw answer _ _ => by
        cases q.afterAnswer settings subject draw answer <;> trivial)
      { first := first, last := last } [] world trivial
  unfold course runRange
  by_cases hempty : last < first
  · rw [if_pos hempty, if_pos hempty]
    rfl
  · rw [if_neg hempty, if_neg hempty, hrecorded, hplain]

end Query

end SmartAccount
