import SmartAccount.Proofs.Contract.EventLog
import SmartAccount.Proofs.Watcher.Chunking
/-!
# The topics of a filter lose no event

An interface names its events twice: `events` is what a log is decoded by, and `topics` is what a
node is asked for. A topic that is missing there would keep a whole kind of event from ever being
seen, and nothing would fail. So it is shown that the two agree on every log
(`Kind.topics_eq`): what decodes has one of the topics first (`Occurrence.decode_eq_ok`), and each
of the topics is the first one of some log that decodes (`Kind.decode_zero`).

That a filter loses nothing is then a fact about lists: leaving out logs of which none decodes
changes nothing for the sightings (`Subject.sightings_filter`).
-/

namespace SmartAccount

namespace Abi

mutual

/-- The value in which every number is zero and every list is empty. -/
def Ty.zero : (t : Ty) → t.Value
  | .word t => t.ofWord 0
  | .bytes => []
  | .array _ => []
  | .tuple _ fields => fields.zero

def Fields.zero : (fields : Fields) → fields.Value
  | .nil => ()
  | .cons _ _ type rest => (type.zero, rest.zero)

end

end Abi

namespace Contract

/-- The fields of an event with every number zero and every list empty. -/
def EventFields.zero : (fields : EventFields) → fields.Value
  | .nil => ()
  | .indexed _ _ type rest => (type.ofWord 0, rest.zero)
  | .plain _ _ type rest => (type.zero, rest.zero)

/-- What a log decodes to is one of the events, and the topic of that event is the first of the
log. -/
theorem Occurrence.decode_eq_ok {events : List Event} {topics : List Hash} {data : Bytes}
    {o : Occurrence} (h : Occurrence.decode events topics data = .ok o) :
    o.event ∈ events ∧ topics.head? = some o.event.topic := by
  unfold Occurrence.decode at h
  split at h
  next => cases h
  next topic words =>
    split at h
    next => cases h
    next e hfind =>
      have hmem : e ∈ events := List.mem_of_find?_eq_some hfind
      have htopic : e.topic = topic := of_decide_eq_true (List.find?_some hfind :)
      split at h
      next => cases h
      next =>
        cases hdata : e.fields.data.decode false data with
        | error cause =>
          rw [hdata] at h
          cases h
        | ok values =>
          simp only [hdata, bind, Except.bind] at h
          split at h
          next =>
            cases h
            exact ⟨hmem, congrArg some htopic.symm⟩
          next => cases h

namespace Kind

/-- The two lists of an interface agree: a node is asked for the first topic of every event, and
for nothing else. -/
theorem topics_eq (k : Kind) : k.interface.topics = k.interface.events.map (·.topic) := by
  cases k <;> rfl

theorem length_data_zero (k : Kind) :
    ∀ e ∈ k.interface.events, (Occurrence.data ⟨e, e.fields.zero⟩).length < 2 ^ 64 := by
  cases k <;> decide +kernel

/-- Every event can be seen: there is a log of it that decodes. -/
theorem decode_zero (k : Kind) {e : Event} (he : e ∈ k.interface.events) :
    Occurrence.decode k.interface.events (Occurrence.topics ⟨e, e.fields.zero⟩)
      (Occurrence.data ⟨e, e.fields.zero⟩) = .ok ⟨e, e.fields.zero⟩ :=
  k.decode_topics_data ⟨e, e.fields.zero⟩ he (k.length_data_zero e he)

/-- What decodes has one of the topics first. -/
theorem head?_topics (k : Kind) {topics : List Hash} {data : Bytes} {o : Occurrence}
    (h : Occurrence.decode k.interface.events topics data = .ok o) :
    ∃ topic ∈ k.interface.topics, topics.head? = some topic := by
  obtain ⟨hmem, hhead⟩ := Occurrence.decode_eq_ok h
  refine ⟨o.event.topic, ?_, hhead⟩
  rw [k.topics_eq]
  exact List.mem_map_of_mem hmem

end Kind

end Contract

open Contract

/-- Leaving out logs of which none holds an event changes nothing. -/
theorem Subject.sightings_filter (s : Subject) {wanted : Log → Bool} {logs : List Log}
    (h : ∀ log ∈ logs, log.holds s.interface.events = true → wanted log = true) :
    s.sightings (logs.filter wanted) = s.sightings logs := by
  unfold sightings
  rw [List.filterMap_filter]
  refine List.filterMap_congr fun log hmem => ?_
  rcases Sighting.ofLog_cases s.interface.events log with
    ⟨sighting, hholds, -, -⟩ | ⟨e, -, herror⟩
  · rw [if_pos (h log hmem hholds)]
  · rw [herror]
    exact ite_self _

/-- A filter for the events of a contract admits the logs of its address that have one of the topics
first. As there are topics, none is admitted without. -/
theorem Subject.admits_iff (k : Kind) (address : Address) (first last : BlockNumber) (log : Log) :
    (Subject.filter ⟨k.interface, address⟩ first last).admits log = true
      ↔ log.address = address ∧ ∃ topic ∈ k.interface.topics, log.topics.head? = some topic := by
  have hsome : k.interface.topics.isEmpty = false := by
    rw [k.topics_eq, List.isEmpty_map]
    cases k <;> rfl
  simp only [Filter.admits, Subject.filter, Option.all_some, hsome, Bool.false_or,
    Bool.and_eq_true, decide_eq_true_eq, Option.any_eq_true]
  constructor
  · rintro ⟨haddress, topic, hhead, hmem⟩
    exact ⟨haddress.symm, topic, of_decide_eq_true hmem, hhead⟩
  · rintro ⟨haddress, topic, hmem, hhead⟩
    exact ⟨haddress.symm, topic, hhead, decide_eq_true hmem⟩

/-- **The topics of a filter lose no event.** For each contract: a log that decodes has one of the
topics first, and each of the topics is the first one of some log that decodes. So, of any logs,
those that the filter of a query admits - the ones of its address that have one of the topics
first - give the same events, in the same order, as all logs of the address. -/
theorem filter_loses_no_event (k : Kind) :
    (∀ topics data o, Occurrence.decode k.interface.events topics data = .ok o →
        ∃ topic ∈ k.interface.topics, topics.head? = some topic)
      ∧ (∀ topic ∈ k.interface.topics, ∃ topics data o,
        topics.head? = some topic ∧ Occurrence.decode k.interface.events topics data = .ok o)
      ∧ ∀ (address : Address) (first last : BlockNumber),
        (∀ log, (Subject.filter ⟨k.interface, address⟩ first last).admits log = true
          ↔ log.address = address ∧ ∃ topic ∈ k.interface.topics, log.topics.head? = some topic)
        ∧ ∀ logs : List Log,
          Subject.sightings ⟨k.interface, address⟩
              (logs.filter (Subject.filter ⟨k.interface, address⟩ first last).admits)
            = Subject.sightings ⟨k.interface, address⟩ (logs.filter (·.address = address)) := by
  refine ⟨fun topics data o h => k.head?_topics h, ?_, ?_⟩
  · intro topic hmem
    rw [k.topics_eq] at hmem
    obtain ⟨e, he, rfl⟩ := List.mem_map.mp hmem
    exact ⟨_, _, ⟨e, e.fields.zero⟩, rfl, k.decode_zero he⟩
  · intro address first last
    refine ⟨Subject.admits_iff k address first last, fun logs => ?_⟩
    have hadmits : logs.filter (Subject.filter ⟨k.interface, address⟩ first last).admits
        = (logs.filter (·.address = address)).filter
          (Subject.filter ⟨k.interface, address⟩ first last).admits := by
      rw [List.filter_filter]
      refine List.filter_congr fun log _ => ?_
      have haddress := fun h => ((Subject.admits_iff k address first last log).mp h).1
      rw [eq_comm, Bool.and_eq_left_iff_imp, decide_eq_true_eq]
      exact haddress
    rw [hadmits]
    refine Subject.sightings_filter _ fun log hmem hholds => ?_
    rw [Subject.admits_iff]
    refine ⟨of_decide_eq_true (List.mem_filter.mp hmem).2, ?_⟩
    rcases Sighting.ofLog_cases k.interface.events log with ⟨s, -, -, hof⟩ | ⟨e, hnot, -⟩
    · exact k.head?_topics hof.decode_eq
    · rw [hholds] at hnot
      cases hnot

/-- Logs around a call that a wallet executed: its own log, one that lacks the topic of the target,
one with a topic of no event, and the first one again at another address. -/
def mixedLogs : List Log :=
  [longExecutionLog, { longExecutionLog with topics := [Event.executed.topic] },
    { longExecutionLog with topics := [0] }, { longExecutionLog with address := 0x5678 }]

theorem filter_loses_no_event_mixedLogs :
    Occurrence.decode Kind.aaWallet.interface.events longExecutionLog.topics longExecutionLog.data
        = .ok ⟨.executed, longExecution⟩
      ∧ (∃ topic ∈ Kind.aaWallet.interface.topics, longExecutionLog.topics.head? = some topic)
      ∧ (mixedLogs.filter (·.address = 0x1234)).length = 3
      ∧ Subject.sightings ⟨Kind.aaWallet.interface, 0x1234⟩
          (mixedLogs.filter (Subject.filter ⟨Kind.aaWallet.interface, 0x1234⟩ 0 9).admits)
        = Subject.sightings ⟨Kind.aaWallet.interface, 0x1234⟩
          (mixedLogs.filter (·.address = 0x1234)) := by
  have hmem : Event.executed ∈ Kind.aaWallet.interface.events := by decide
  have hlength : (Occurrence.data ⟨.executed, longExecution⟩).length < 2 ^ 64 := by
    decide +kernel
  have hdecode := Kind.aaWallet.decode_topics_data ⟨.executed, longExecution⟩ hmem hlength
  obtain ⟨hhead, -, hfilter⟩ := filter_loses_no_event .aaWallet
  exact ⟨hdecode, hhead _ _ _ hdecode, rfl, (hfilter 0x1234 0 9).2 mixedLogs⟩

end SmartAccount
