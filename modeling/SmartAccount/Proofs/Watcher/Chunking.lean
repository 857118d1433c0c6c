import Mathlib.Data.List.Forall2
import SmartAccount.Proofs.Watcher.Delivery
import SmartAccount.Proofs.Watcher.Stretches
/-!
# A query in stretches finds what one request would

What a query finds are the sightings of all logs that it was answered, in the order of the answers
(`course_found`): a log that decodes gives one sighting, with the place of that very log
(`Sighting.Of`), and a log that does not decode gives none and changes nothing for the others
(`sightings_forall₂`).

When the answers come from a ledger, that the requests lie side by side is all that matters: the
events of ranges side by side are the events of the blocks that they cover (`Tiles.sightings`). So
neither the length of the stretches nor a cut at any block changes what is found
(`chunked_eq_whole`).
-/

namespace SmartAccount

open Contract

/-- The sighting of a log: its event is what the log decodes to, and its place on the chain is the
place of the log. -/
structure Sighting.Of (events : List Event) (log : Log) (s : Sighting) : Prop where
  decode_eq : Occurrence.decode events log.topics log.data = .ok s.occurrence
  address_eq : s.address = log.address
  blockNumber_eq : s.blockNumber = log.blockNumber
  blockHash_eq : s.blockHash = log.blockHash
  transactionHash_eq : s.transactionHash = log.transactionHash
  logIndex_eq : s.logIndex = log.logIndex

/-- Whether a log holds one of the events. -/
def Log.holds (events : List Event) (log : Log) : Bool :=
  (Occurrence.decode events log.topics log.data).toBool

/-- A log holds an event and has a sighting, or it holds none and has none. -/
theorem Sighting.ofLog_cases (events : List Event) (log : Log) :
    (∃ s, log.holds events = true ∧ Sighting.ofLog events log = .ok s ∧ s.Of events log)
      ∨ (∃ e, log.holds events = false ∧ Sighting.ofLog events log = .error e) := by
  unfold Log.holds Sighting.ofLog
  cases hdecode : Occurrence.decode events log.topics log.data with
  | ok occurrence => exact .inl ⟨_, rfl, rfl, hdecode, rfl, rfl, rfl, rfl, rfl⟩
  | error e => exact .inr ⟨e, rfl, rfl⟩

namespace Subject

theorem sightings_append (s : Subject) (logs more : List Log) :
    s.sightings (logs ++ more) = s.sightings logs ++ s.sightings more :=
  List.filterMap_append

/-- The sightings are those of the logs that decode, each of its own log, in the same order. -/
theorem sightings_forall₂ (s : Subject) (logs : List Log) :
    List.Forall₂ (fun log sighting => sighting.Of s.interface.events log)
      (logs.filter (·.holds s.interface.events)) (s.sightings logs) := by
  unfold sightings
  induction logs with
  | nil => exact .nil
  | cons log logs ih =>
    rcases Sighting.ofLog_cases s.interface.events log with
      ⟨sighting, hholds, hsighting, hof⟩ | ⟨e, hholds, herror⟩
    · rw [List.filter_cons_of_pos hholds, List.filterMap_cons, hsighting]
      exact .cons hof ih
    · rw [List.filter_cons_of_neg (by rw [hholds]; decide), List.filterMap_cons, herror]
      exact ih

end Subject

/-- The events of ranges side by side are the events of the blocks that they cover. -/
theorem Tiles.sightings (ledger : Ledger) (subject : Subject) :
    ∀ {i j : Nat} {ranges : List BlockRange}, Tiles i ranges j →
      subject.sightings ((ranges.map subject.filterFor).flatMap ledger.answer)
        = ledger.events subject i j
  | i, _, [], h => by
    obtain rfl := h
    exact (ledger.events_self subject i).symm
  | i, j, r :: rest, ⟨hfirst, hle, hrest⟩ => by
    have hj := hrest.le
    rw [BitVec.le_def] at hle
    have hhead : subject.sightings (ledger.answer (subject.filterFor r))
        = ledger.events subject i (r.last.toNat + 1) := by
      rw [← hfirst]
      exact ledger.sightings_answer subject r.first r.last
    rw [List.map_cons, List.flatMap_cons, Subject.sightings_append, hhead, hrest.sightings]
    exact ledger.events_append subject (by omega) hj

namespace Query

variable {σ ε : Type} {means : Means (StateM σ) ε}

/-- Every answer on record is one that the world gives. -/
theorem course_answers {allowed : Filter → Except ε (List Log) → Prop}
    (hanswers : means.Answers allowed) (settings : WatchSettings) (subject : Subject)
    (first last : BlockNumber) (world : σ) :
    ∀ r ∈ (course means settings subject first last world).replies, allowed r.filter r.answer := by
  by_cases hempty : last < first
  · rw [course_of_lt hempty]
    intro r hmem
    cases hmem
  · refine course_spec (fun _ record => ∀ r ∈ record, allowed r.filter r.answer)
      (fun _ record => ∀ r ∈ record, allowed r.filter r.answer) hanswers ?_
      (BitVec.not_lt.mp hempty) ?_ world
    · intro q record draw answer hinv hanswer
      have hall : ∀ r ∈ record ++ [q.reply settings subject answer], allowed r.filter r.answer := by
        intro r hmem
        rcases List.mem_append.mp hmem with hold | hnew
        · exact hinv r hold
        · rw [List.mem_singleton.mp hnew]
          exact hanswer
      cases q.afterAnswer settings subject draw answer <;> exact hall
    · intro r hmem
      cases hmem

/-- What a query finds are the sightings of all logs on record. -/
theorem course_found (hanswers : means.AlwaysAnswers) (settings : WatchSettings)
    (subject : Subject) (first last : BlockNumber) (world : σ) :
    (course means settings subject first last world).outcome
      = .found (subject.sightings
          ((course means settings subject first last world).replies.flatMap Reply.logs)) := by
  by_cases hempty : last < first
  · rw [course_of_lt hempty]
    rfl
  · refine course_spec (fun q record => q.found = subject.sightings (record.flatMap Reply.logs))
      (fun outcome record => outcome = .found (subject.sightings (record.flatMap Reply.logs)))
      hanswers ?_ (BitVec.not_lt.mp hempty) rfl world
    intro q record draw answer hinv hanswer
    obtain ⟨logs, rfl⟩ := hanswer
    have hfound : subject.sightings ((record ++ [q.reply settings subject (.ok logs)]).flatMap
        Reply.logs) = q.found ++ subject.sightings logs := by
      rw [List.flatMap_append, Subject.sightings_append, ← hinv, List.flatMap_singleton]
      rfl
    simp only [afterAnswer, hfound]
    split
    next => rfl
    next => rfl

/-- A world answers by a ledger: a request gets the logs that the ledger has for it. -/
def Means.AnswersBy (means : Means (StateM σ) ε) (ledger : Ledger) : Prop :=
  means.Answers fun filter answer => answer = .ok (ledger.answer filter)

theorem Means.AnswersBy.alwaysAnswers {ledger : Ledger} (h : means.AnswersBy ledger) :
    means.AlwaysAnswers :=
  fun filter world => ⟨_, h filter world⟩

/-- The logs on record are those that the ledger has for the requests on record. -/
theorem flatMap_logs {ledger : Ledger} {replies : List (Reply ε)}
    (h : ∀ r ∈ replies, r.answer = .ok (ledger.answer r.filter)) :
    replies.flatMap Reply.logs = (replies.map Reply.filter).flatMap ledger.answer := by
  rw [List.flatMap_map]
  refine List.flatMap_congr fun r hmem => ?_
  unfold Reply.logs
  rw [h r hmem]

/-- A query finds the events of its blocks. -/
theorem course_outcome_ledger {ledger : Ledger} (hledger : means.AnswersBy ledger)
    (settings : WatchSettings) (subject : Subject) (first last : BlockNumber) (world : σ) :
    (course means settings subject first last world).outcome
      = .found (ledger.events subject first.toNat (last.toNat + 1)) := by
  by_cases hempty : last < first
  · rw [course_of_lt hempty, ledger.events_of_le subject (BitVec.lt_def.mp hempty)]
  · have hrange := BitVec.not_lt.mp hempty
    obtain ⟨-, ranges, hrequests, hcuts⟩ :=
      course_cut hledger.alwaysAnswers settings subject hrange world
    have hrecord := course_answers hledger settings subject first last world
    rw [course_found hledger.alwaysAnswers, flatMap_logs hrecord, hrequests,
      hcuts.tiles.sightings]

/-- **A query in stretches finds what one request would.** Let the world answer every request.

Whatever it answers, the query finds exactly the logs that decode, each with its own place on the
chain, in the order of the requests and within an answer in its order.

If it answers by a ledger, these are the events of the blocks from the first to the last: those
that one request for all of them would give, for every length of a stretch, and those of the
blocks up to any block `k` followed by those of the blocks after it. -/
theorem chunked_eq_whole (hanswers : means.AlwaysAnswers) (settings : WatchSettings)
    (subject : Subject) (first last : BlockNumber) (world : σ) :
    (∃ found, (course means settings subject first last world).outcome = .found found
      ∧ List.Forall₂ (fun log sighting => sighting.Of subject.interface.events log)
        (((course means settings subject first last world).replies.flatMap Reply.logs).filter
          (·.holds subject.interface.events)) found)
      ∧ ∀ ledger : Ledger, means.AnswersBy ledger →
        (course means settings subject first last world).outcome
            = .found (ledger.events subject first.toNat (last.toNat + 1))
          ∧ (course means settings subject first last world).outcome
            = .found (subject.sightings (ledger.answer (subject.filter first last)))
          ∧ (∀ otherSettings otherWorld,
            (course means otherSettings subject first last otherWorld).outcome
              = (course means settings subject first last world).outcome)
          ∧ ∀ k, first ≤ k → k < last → ∀ world₁ world₂, ∃ before after,
            (course means settings subject first k world₁).outcome = .found before
              ∧ (course means settings subject (k + 1) last world₂).outcome = .found after
              ∧ (course means settings subject first last world).outcome
                = .found (before ++ after) := by
  refine ⟨⟨_, course_found hanswers .., subject.sightings_forall₂ _⟩, ?_⟩
  intro ledger hledger
  refine ⟨course_outcome_ledger hledger .., ?_, ?_, ?_⟩
  · rw [course_outcome_ledger hledger, ledger.sightings_answer]
  · intro otherSettings otherWorld
    rw [course_outcome_ledger hledger, course_outcome_ledger hledger]
  · intro k hfirst hlast world₁ world₂
    refine ⟨_, _, course_outcome_ledger hledger .., course_outcome_ledger hledger .., ?_⟩
    rw [BitVec.le_def] at hfirst
    rw [BitVec.lt_def] at hlast
    have hnext : (k + 1).toNat = k.toNat + 1 := by
      have := last.isLt
      exact BlockNumber.succ_toNat (by omega)
    rw [course_outcome_ledger hledger, hnext,
      ledger.events_append subject (by omega) (by omega)]

/-- The world of the small chain. -/
def smallWorld : Means (StateM Unit) String where
  ask filter := pure (.ok (Watch.smallLedger.answer filter))
  wait _ := pure ()
  draw := pure 0
  tell _ := pure ()
  shown := id

/-- The node of the small chain finds the one log in the first 26 blocks. -/
theorem smallLedger_answer_all :
    Watch.smallLedger.answer (Watch.smallSubject.filter 0 25) = [Watch.smallLog] := by
  have hadmits : (Watch.smallSubject.filter 0 25).admits Watch.smallLog = true := by
    simp [Filter.admits, Subject.filter, Watch.smallSubject, Watch.smallLog, Contract.aAccount]
  have hlogs : (blocksFrom 0 26).flatMap Watch.smallLedger = [Watch.smallLog] := rfl
  show ((blocksFrom 0 26).flatMap fun n => (Watch.smallLedger n).filter _) = _
  rw [← List.filter_flatMap, hlogs, List.filter_cons_of_pos hadmits, List.filter_nil]

/-- On the small chain, cut in front of the block with the event: the whole query finds it, of the
two parts only the second. -/
theorem chunked_eq_whole_smallWorld :
    smallWorld.AlwaysAnswers ∧ smallWorld.AnswersBy Watch.smallLedger
      ∧ (7 : BlockNumber) < 25
      ∧ (course smallWorld { maxBlockRange := 3 } Watch.smallSubject 0 25 ()).outcome
        = .found [Watch.smallSighting]
      ∧ (course smallWorld { maxBlockRange := 3 } Watch.smallSubject 0 7 ()).outcome = .found []
      ∧ (course smallWorld { maxBlockRange := 3 } Watch.smallSubject 8 25 ()).outcome
        = .found [Watch.smallSighting] := by
  have hledger : smallWorld.AnswersBy Watch.smallLedger := fun _ _ => rfl
  obtain ⟨-, hwhole, -, hcut⟩ := (chunked_eq_whole hledger.alwaysAnswers { maxBlockRange := 3 }
    Watch.smallSubject 0 25 ()).2 Watch.smallLedger hledger
  rw [smallLedger_answer_all, Watch.sightings_smallLog] at hwhole
  have hbefore : (course smallWorld { maxBlockRange := 3 } Watch.smallSubject 0 7 ()).outcome
      = .found [] := ((chunked_eq_whole hledger.alwaysAnswers { maxBlockRange := 3 }
    Watch.smallSubject 0 7 ()).2 Watch.smallLedger hledger).2.1
  obtain ⟨before, after, hfirst, hrest, hboth⟩ := hcut 7 (by decide) (by decide) () ()
  obtain rfl : [] = before := Outcome.found.inj (hbefore.symm.trans hfirst)
  obtain rfl : [Watch.smallSighting] = after := Outcome.found.inj (hwhole.symm.trans hboth)
  exact ⟨hledger.alwaysAnswers, hledger, by decide, hwhole, hbefore, hrest⟩

end Query

end SmartAccount
