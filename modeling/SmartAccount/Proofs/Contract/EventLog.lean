import SmartAccount.Proofs.Contract.CallData
import SmartAccount.Watcher.Sighting
/-!
# Event logs read back

The fields of an event are torn apart when it is logged: an indexed field takes a topic, the others
stand in the data. `EventFields.assemble?_words` says that they come together again in their order,
whatever the order in which the two kinds alternate. So a log of any list of events whose first
topics differ is decoded to the occurrence that it was made of (`Occurrence.decode_topics_data`).

The three contracts declare seven events between them. As with the selectors of functions, their
first topics are computed once each, and the numbers that come out are compared (`topicNumbers`).
-/

namespace SmartAccount.Contract

open Abi

namespace EventFields

/-! ## Fields apart and together -/

/-- Whether topics and data have room for the values of the fields. -/
def isRegular : EventFields → Bool
  | .nil => true
  | .indexed _ _ type rest => type.fits && rest.isRegular
  | .plain _ _ type rest => type.isRegular && rest.isRegular

theorem isRegular_data {fields : EventFields} (h : fields.isRegular = true) :
    fields.data.isRegular = true := by
  induction fields with
  | nil => rfl
  | indexed name declared type rest ih =>
    rw [isRegular, Bool.and_eq_true] at h
    exact ih h.2
  | plain name declared type rest ih =>
    rw [isRegular, Bool.and_eq_true] at h
    rw [data, Fields.isRegular, Bool.and_eq_true]
    exact ⟨h.1, ih h.2⟩

theorem length_words (fields : EventFields) (values : fields.Value) :
    (fields.words values).length = fields.indexedCount := by
  induction fields with
  | nil => rfl
  | indexed name declared type rest ih =>
    rw [words, List.length_cons, ih, indexedCount]
  | plain name declared type rest ih =>
    rw [words, ih, indexedCount]

/-- The fields come together again from the words of the indexed ones and the values of the
others. -/
theorem assemble?_words {fields : EventFields} (h : fields.isRegular = true)
    (values : fields.Value) :
    fields.assemble? (fields.words values) (fields.dataValues values) = some values := by
  induction fields with
  | nil => rfl
  | indexed name declared type rest ih =>
    obtain ⟨value, values⟩ := values
    rw [isRegular, Bool.and_eq_true] at h
    show (rest.assemble? (rest.words values) (rest.dataValues values)).map
      (fun values => (type.ofWord (type.toWord value), values)) = some (value, values)
    rw [ih h.2 values, type.ofWord_toWord h.1, Option.map_some]
  | plain name declared type rest ih =>
    obtain ⟨value, values⟩ := values
    rw [isRegular, Bool.and_eq_true] at h
    show (rest.assemble? (rest.words values) (rest.dataValues values)).map
      (fun values => (value, values)) = some (value, values)
    rw [ih h.2 values, Option.map_some]

end EventFields

/-! ## Lists of events -/

/-- A log is decoded to the occurrence that it was made of. -/
theorem Occurrence.decode_topics_data {events : List Event}
    (htopic : ∀ e ∈ events, ∀ f ∈ events, e.topic = f.topic → e = f) (o : Occurrence)
    (hmem : o.event ∈ events) (hregular : o.event.fields.isRegular = true)
    (hlength : o.data.length < 2 ^ 64) :
    Occurrence.decode events o.topics o.data = .ok o := by
  have hcount : ¬(o.event.fields.words o.values).length ≠ o.event.fields.indexedCount :=
    not_not_intro (o.event.fields.length_words o.values)
  have hdata : o.event.fields.data.decode false o.data
      = .ok (o.event.fields.dataValues o.values) :=
    Fields.decode_encode (EventFields.isRegular_data hregular) _ hlength false
  unfold decode topics
  simp only [find?_key htopic hmem, if_neg hcount, hdata, bind, Except.bind,
    EventFields.assemble?_words hregular]
  rfl

/-! ## The three contracts -/

/-- The events that the contracts declare, each once. -/
def allEvents : List Event :=
  aAccount.events ++ aaWallet.events ++ [.accountCreated]

/-- Their first topics as numbers. -/
def topicNumbers : List Nat :=
  [0x526ffefac8167421b9048ae3377810715d834479565b0182ea4155f0efa4c380,
    0xc7f505b2f371ae2175ee4913f4499e1f2633a7b5936321eed1cdaeb6115181d2,
    0xbc7cd75a20ee27fd9adebab32041f755214dbc6bffa90cc0225b39da2e5c2d3b,
    0x8be0079c531659141344cd1fd0a4f28419497f9722a3daafe3b4186f6b6457e0,
    0xcaf938de11c367272220bfd1d2baa99ca46665e7bc4d85f00adb51b90fe1fa9f,
    0x88a5966d370b9919b20f3e2c13ff65706f196a4e32cc2c12bf57088f88525874,
    0x33310a89c32d8cc00057ad6ef6274d2f8fe22389a992cf89983e09fc84f6cfff]

theorem toNat_topic : allEvents.map (fun e => e.topic.toNat) = topicNumbers := by
  simp only [allEvents, aAccount, aaWallet, topicNumbers, List.cons_append, List.nil_append,
    List.map_cons, List.map_nil, List.cons.injEq]
  and_intros
  all_goals decide +kernel

/-- No two events have the same first topic. -/
theorem topic_inj : ∀ e ∈ allEvents, ∀ f ∈ allEvents, e.topic = f.topic → e = f := by
  have hnumbers : topicNumbers.Nodup := by decide
  rw [← toNat_topic] at hnumbers
  intro e he f hf h
  exact List.inj_on_of_nodup_map hnumbers he hf (congrArg BitVec.toNat h)

namespace Kind

theorem events_subset (k : Kind) : ∀ e ∈ k.interface.events, e ∈ allEvents := by
  cases k <;> decide

theorem isRegular_fields (k : Kind) : ∀ e ∈ k.interface.events, e.fields.isRegular = true := by
  cases k <;> decide

/-- A log of an event of a contract is decoded to the event with its fields. -/
theorem decode_topics_data (k : Kind) (o : Occurrence) (hmem : o.event ∈ k.interface.events)
    (hlength : o.data.length < 2 ^ 64) :
    Occurrence.decode k.interface.events o.topics o.data = .ok o :=
  o.decode_topics_data
    (fun e he f hf => topic_inj e (k.events_subset e he) f (k.events_subset f hf)) hmem
    (k.isRegular_fields _ hmem) hlength

end Kind

/-- For each event of each contract and all values of its fields: the topics and the data of its log
are decoded to the same event with the same values; a log that holds them is sighted as this
occurrence at the place of the log, whatever the place; and no other occurrence of an event of the
contract has these topics and this data.

The bound on the length is that of a byte string in memory, which has a length of 64 bits. -/
theorem event_log_round_trip (k : Kind) {e : Event} (he : e ∈ k.interface.events)
    (values : e.fields.Value) (hlength : (Occurrence.data ⟨e, values⟩).length < 2 ^ 64) :
    Occurrence.decode k.interface.events (Occurrence.topics ⟨e, values⟩)
        (Occurrence.data ⟨e, values⟩) = .ok ⟨e, values⟩
      ∧ (∀ log : Log, log.topics = Occurrence.topics ⟨e, values⟩ →
          log.data = Occurrence.data ⟨e, values⟩ →
          Sighting.ofLog k.interface.events log = .ok {
            occurrence := ⟨e, values⟩
            address := log.address
            blockNumber := log.blockNumber
            blockHash := log.blockHash
            transactionHash := log.transactionHash
            logIndex := log.logIndex })
      ∧ ∀ f ∈ k.interface.events, ∀ others : f.fields.Value,
          Occurrence.topics ⟨f, others⟩ = Occurrence.topics ⟨e, values⟩ →
          Occurrence.data ⟨f, others⟩ = Occurrence.data ⟨e, values⟩ →
          (⟨f, others⟩ : Occurrence) = ⟨e, values⟩ := by
  have hdecode := k.decode_topics_data ⟨e, values⟩ he hlength
  refine ⟨hdecode, ?_, ?_⟩
  · intro log htopics hdata
    unfold Sighting.ofLog
    rw [htopics, hdata, hdecode]
    rfl
  · intro f hf others htopics hdata
    have hother := k.decode_topics_data ⟨f, others⟩ hf (by rwa [hdata])
    rw [htopics, hdata, hdecode] at hother
    exact (Except.ok.inj hother).symm

/-- What a wallet logs about a call with more data than a word holds. -/
def longExecution : Event.executed.fields.Value :=
  (0xd8da6bf26964af9d7eed9e03e53415d37aa96045, BitVec.allOnes 256, List.replicate 33 0xab, ())

/-- The log of that call, which has a block and no place in it. -/
def longExecutionLog : Log where
  address := 0x1234
  topics := Occurrence.topics ⟨.executed, longExecution⟩
  data := Occurrence.data ⟨.executed, longExecution⟩
  blockNumber := some 7
  blockHash := none
  transactionHash := none
  logIndex := none

theorem event_log_round_trip_longExecution :
    Event.executed ∈ Kind.aaWallet.interface.events
      ∧ (Occurrence.data ⟨.executed, longExecution⟩).length < 2 ^ 64
      ∧ Sighting.ofLog Kind.aaWallet.interface.events longExecutionLog
        = .ok ⟨⟨.executed, longExecution⟩, 0x1234, some 7, none, none, none⟩ := by
  have hmem : Event.executed ∈ Kind.aaWallet.interface.events := by decide
  have hlength : (Occurrence.data ⟨.executed, longExecution⟩).length < 2 ^ 64 := by
    decide +kernel
  exact ⟨hmem, hlength,
    (event_log_round_trip .aaWallet hmem longExecution hlength).2.1 longExecutionLog rfl rfl⟩

end SmartAccount.Contract
