import SmartAccount.Retry
import SmartAccount.Watcher.Sighting
/-!
# Querying the events of a range of blocks

A node answers only for a limited number of blocks at once, so a query asks for one stretch of
blocks after the other and collects the events. A stretch that fails is asked for again as
often as the settings allow; when its last attempt fails, the query fails with that error.

`Query.afterAnswer` is one step of a query, as a function of the state of the query and of one
answer. `Query.run` follows the steps in any monad that can ask, wait and report; it ends because
a step leaves fewer blocks, or the same blocks and fewer attempts.
-/

namespace SmartAccount

open Contract

/-- How to fetch events. -/
structure WatchSettings where
  /-- The time between two looks at the head of the chain. -/
  pollInterval : Duration := .ofSeconds 2
  /-- How many blocks to ask for at once; zero counts as one. -/
  maxBlockRange : BitVec 64 := 2000
  retry : Retry.Options := {}

/-- Whose events are wanted: those of a contract at an address. -/
structure Subject where
  interface : Interface
  address : Address

namespace Subject

/-- The events of the contract as notices call them. -/
def eventsName (s : Subject) : String := s.interface.name ++ "Events"

/-- The filter for the events in the blocks from `first` to `last`. -/
def filter (s : Subject) (first last : BlockNumber) : Filter where
  address := some s.address
  firstTopics := s.interface.topics
  first := some first
  last := some last

/-- The events among the logs, in the order of the logs. -/
def sightings (s : Subject) (logs : List Log) : List Sighting :=
  logs.filterMap fun log => (Sighting.ofLog s.interface.events log).toOption

/-- What the operator reads about a log that holds none of the events. -/
def skipNotice (s : Subject) (log : Log) : Option Notice :=
  match Sighting.ofLog s.interface.events log with
  | .ok _ => none
  | .error _ => some ⟨.warn, "Skipping undecodable " ++ s.eventsName ++ " log in tx "
      ++ (log.transactionHash.map fun h => "Some(" ++ h.text ++ ")").getD "None"⟩

/-- What the operator reads when the logs of the blocks from `first` to `last` have come. -/
def fetchNotices (s : Subject) (first last : BlockNumber) (logs : List Log) : List Notice :=
  ⟨.debug, "Fetched " ++ Numeral.decimal logs.length ++ " " ++ s.eventsName ++ " logs in blocks "
      ++ Numeral.decimal first.toNat ++ "..=" ++ Numeral.decimal last.toNat⟩
    :: logs.filterMap s.skipNotice

end Subject

/-- The block `count` blocks after `block`, or the last one there can be. -/
def BlockNumber.saturatingAdd (block count : BlockNumber) : BlockNumber :=
  if BitVec.uaddOverflow block count then BitVec.allOnes 64 else block + count

theorem BlockNumber.le_saturatingAdd (block count : BlockNumber) :
    block ≤ block.saturatingAdd count := by
  unfold saturatingAdd
  split
  · rw [BitVec.le_def, BitVec.toNat_allOnes]
    have := block.isLt
    omega
  · rename_i fits
    rw [BitVec.le_def, BitVec.toNat_add_of_not_uaddOverflow (by simpa using fits)]
    omega

/-- Where a query stands: the stretch that is being asked for starts at `first`, the last block
of all is `last`. -/
structure Query where
  first : BlockNumber
  last : BlockNumber
  /-- The attempts at the current stretch. -/
  progress : Retry.Progress := {}
  /-- The events of the stretches before. -/
  found : List Sighting := []

namespace Query

/-- The number of blocks in a full stretch, less one. -/
def stretch (settings : WatchSettings) : BlockNumber :=
  if settings.maxBlockRange = 0 then 0 else settings.maxBlockRange - 1

/-- The last block of the current stretch. -/
def stretchEnd (settings : WatchSettings) (q : Query) : BlockNumber :=
  let fullEnd := q.first.saturatingAdd (stretch settings)
  if q.last ≤ fullEnd then q.last else fullEnd

/-- The request for the current stretch. -/
def filter (settings : WatchSettings) (subject : Subject) (q : Query) : Filter :=
  subject.filter q.first (q.stretchEnd settings)

/-- What an answer leads to. -/
inductive Next (ε : Type) where
  /-- Ask for the next stretch. -/
  | onward (q : Query)
  /-- Wait, then ask for the same stretch again. -/
  | again (wait : Duration) (q : Query)
  | done (events : List Sighting)
  | failed (error : ε)
  /-- Wait if there is a wait, then break down. -/
  | breakDown (wait? : Option Duration) (cause : Retry.BreakDown)

/-- What notices call the request of a query. -/
def purpose : String := "fetch contract logs"

/-- One step: what the answer for the current stretch leads to. -/
def afterAnswer {ε : Type} (settings : WatchSettings) (subject : Subject) (q : Query)
    (draw : Nat) : Except ε (List Log) → Next ε
  | .ok logs =>
    let found := q.found ++ subject.sightings logs
    let stretchEnd := q.stretchEnd settings
    if q.last ≤ stretchEnd then .done found
    else .onward { first := stretchEnd + 1, last := q.last, found := found }
  | .error e =>
    match q.progress.afterFailure settings.retry draw with
    | .giveUp => .failed e
    | .again wait progress => .again wait { q with progress := progress }
    | .breakDown wait? cause => .breakDown wait? cause

/-- What the operator reads about the answer for the current stretch. -/
def notices {ε : Type} (settings : WatchSettings) (subject : Subject) (shown : ε → String)
    (q : Query) : Except ε (List Log) → List Notice
  | .ok logs => subject.fetchNotices q.first (q.stretchEnd settings) logs
  | .error e => [q.progress.notice settings.retry purpose (shown e)]

/-- The attempts that are left for the current stretch. -/
def attemptsLeft (settings : WatchSettings) (q : Query) : Nat :=
  settings.retry.attempts - q.progress.attempt

theorem onward_shrinks {ε : Type} {settings : WatchSettings} {subject : Subject} {q next : Query}
    {draw : Nat} {answer : Except ε (List Log)}
    (h : q.afterAnswer settings subject draw answer = .onward next) :
    next.last.toNat - next.first.toNat < q.last.toNat - q.first.toNat := by
  cases answer with
  | error e =>
    simp only [afterAnswer] at h
    split at h <;> cases h
  | ok logs =>
    simp only [afterAnswer] at h
    split at h
    · cases h
    · rename_i short
      cases h
      have start : q.first.toNat ≤ (q.stretchEnd settings).toNat
          ∨ q.last ≤ q.stretchEnd settings := by
        unfold stretchEnd
        dsimp only
        split
        · exact .inr (BitVec.le_refl _)
        · exact .inl (BlockNumber.le_saturatingAdd _ _)
      rcases start with start | stop
      · have below : (q.stretchEnd settings).toNat < q.last.toNat := by
          simpa [BitVec.le_def] using short
        have := q.last.isLt
        have step : (q.stretchEnd settings + 1).toNat = (q.stretchEnd settings).toNat + 1 := by
          have one : (1 : BlockNumber).toNat = 1 := rfl
          rw [BitVec.toNat_add_of_lt (by rw [one]; omega), one]
        dsimp only
        omega
      · exact absurd stop short

theorem again_shrinks {ε : Type} {settings : WatchSettings} {subject : Subject} {q next : Query}
    {draw : Nat} {wait : Duration} {answer : Except ε (List Log)}
    (h : q.afterAnswer settings subject draw answer = .again wait next) :
    next.first = q.first ∧ next.last = q.last
      ∧ next.attemptsLeft settings < q.attemptsLeft settings := by
  cases answer with
  | ok logs =>
    simp only [afterAnswer] at h
    split at h <;> cases h
  | error e =>
    simp only [afterAnswer] at h
    split at h
    · cases h
    · rename_i verdict
      cases h
      have := Retry.Progress.afterFailure_again verdict
      refine ⟨rfl, rfl, ?_⟩
      unfold attemptsLeft
      dsimp only
      omega
    · cases h

/-- How a query ends. -/
inductive Outcome (ε : Type) where
  | found (events : List Sighting)
  | failed (error : ε)
  /-- After a failure it could not go on. -/
  | brokenDown (cause : Retry.BreakDown)

/-- How a query reaches the chain: asking for logs, waiting, drawing a number for the jitter and
telling the operator something. -/
structure Means (m : Type → Type) (ε : Type) where
  ask : Filter → m (Except ε (List Log))
  wait : Duration → m Unit
  draw : m Nat
  tell : List Notice → m Unit
  /-- How notices show an error. -/
  shown : ε → String

/-- The rest of a query. -/
def run {m : Type → Type} [Monad m] {ε : Type} (means : Means m ε) (settings : WatchSettings)
    (subject : Subject) (q : Query) : m (Outcome ε) := do
  let answer ← means.ask (q.filter settings subject)
  means.tell (q.notices settings subject means.shown answer)
  let draw ← means.draw
  match _ : q.afterAnswer settings subject draw answer with
  | .done events => return .found events
  | .failed e => return .failed e
  | .breakDown wait? cause => do
    wait?.forM means.wait
    return .brokenDown cause
  | .again wait next => do
    means.wait wait
    run means settings subject next
  | .onward next => run means settings subject next
termination_by (q.last.toNat - q.first.toNat, q.attemptsLeft settings)
decreasing_by
  · have := again_shrinks ‹_›
    simp only [this.1, this.2.1]
    exact .right _ this.2.2
  · exact .left _ _ (onward_shrinks ‹_›)

/-- A query for the events in the blocks from `first` to `last`. There are none, and nothing is
asked, when the range is empty. -/
def runRange {m : Type → Type} [Monad m] {ε : Type} (means : Means m ε)
    (settings : WatchSettings) (subject : Subject) (first last : BlockNumber) : m (Outcome ε) :=
  if last < first then return .found []
  else run means settings subject { first := first, last := last }

end Query

end SmartAccount
