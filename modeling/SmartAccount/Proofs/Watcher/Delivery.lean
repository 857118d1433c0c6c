import SmartAccount.Proofs.Watcher.Ledger
import SmartAccount.Proofs.Watcher.Run
/-!
# What a watch delivers

The node tells the truth about the logs (`Ledger.Answers`), but it may report any heads in any
order and fail as often as it likes; the receiver and the owner may act at any time. Then the events
that went into the channel are at every moment the first of the events of the blocks from the
start on, and whenever the watch sleeps they are all events up to the highest head reported so far
(`sent_in_order`).

The invariant `DeliveryInv` follows the phases. Between two polls `Level` holds: everything below
the next block has been sent, and the next block is the one after the highest head, or the start
as long as no head has reached it. During a poll `Climbing` holds: the head of the poll is the
highest so far, and it is not below the next block. What has been sent, what is being collected and
what waits to be sent then add up to the events up to that head; the next block moves only when
nothing is left to send.
-/

namespace SmartAccount

open Contract

/-- The environment of a watch in which the node has a ledger and answers for logs by it. About the
head it may say anything that leaves room for one more block. -/
def Ledger.Answers {ε : Type} (ledger : Ledger) (settings : WatchSettings) (subject : Subject)
    (w : Watch ε) (action : Watch.Action ε) : Prop :=
  action.HeadFits ∧ ∀ logs draw q, action = .logsAnswer (.ok logs) draw →
    w.phase = .readingLogs q → logs = ledger.answer (q.filter settings subject)

namespace Watch

variable {ε : Type}

/-- Between two polls of a watch that started at block `i`: every head lies below the next block
`n`, and `n` is still the start or follows one of the heads. -/
structure Level (i : Nat) (heads : List BlockNumber) (n : Nat) : Prop where
  start_le : i ≤ n
  heads_lt : ∀ head ∈ heads, head.toNat < n
  reached : n = i ∨ ∃ head ∈ heads, n = head.toNat + 1

/-- During a poll up to the block `top`: it is the highest head so far, and the next block `n`
is not beyond it. -/
structure Climbing (i : Nat) (heads : List BlockNumber) (n : Nat) (top : BlockNumber) :
    Prop where
  start_le : i ≤ n
  next_le : n ≤ top.toNat
  top_mem : top ∈ heads
  heads_le : ∀ head ∈ heads, head.toNat ≤ top.toNat
  top_lt : top.toNat < 2 ^ 64 - 1

/-- A head below the next block changes nothing. -/
theorem Level.ignore {i n : Nat} {heads : List BlockNumber} {head : BlockNumber}
    (h : Level i heads n) (hlow : head.toNat < n) : Level i (heads ++ [head]) n := by
  refine ⟨h.start_le, ?_, ?_⟩
  · intro other hmem
    rcases List.mem_append.mp hmem with hold | hnew
    · exact h.heads_lt other hold
    · rw [List.mem_singleton.mp hnew]
      exact hlow
  · rcases h.reached with hstart | ⟨other, hmem, heq⟩
    · exact Or.inl hstart
    · exact Or.inr ⟨other, List.mem_append_left _ hmem, heq⟩

/-- A head that is not below the next block starts a poll. -/
theorem Level.climb {i n : Nat} {heads : List BlockNumber} {head : BlockNumber}
    (h : Level i heads n) (hhigh : n ≤ head.toNat) (hfits : head.toNat < 2 ^ 64 - 1) :
    Climbing i (heads ++ [head]) n head := by
  refine ⟨h.start_le, hhigh, List.mem_append_right _ (List.mem_singleton_self _), ?_, hfits⟩
  intro other hmem
  rcases List.mem_append.mp hmem with hold | hnew
  · have := h.heads_lt other hold
    omega
  · obtain rfl := List.mem_singleton.mp hnew
    exact Nat.le_refl _

/-- After the poll, the next block is the one after its head. -/
theorem Climbing.level {i n : Nat} {heads : List BlockNumber} {top : BlockNumber}
    (h : Climbing i heads n top) : Level i heads (top + 1).toNat := by
  have hstart := h.start_le
  have hnext := h.next_le
  have hsucc := BlockNumber.succ_toNat h.top_lt
  refine ⟨by omega, ?_, Or.inr ⟨top, h.top_mem, hsucc⟩⟩
  intro head hmem
  have := h.heads_le head hmem
  omega

/-- What holds in a phase of a watch that started at block `i`, when `heads` have been reported,
`sent` has gone into the channel and `n` is the next block. -/
def PhaseInv (ledger : Ledger) (subject : Subject) (i : Nat) (heads : List BlockNumber)
    (sent : List Sighting) (n : Nat) : Phase ε → Prop
  | .readingHead _ => Level i heads n ∧ sent = ledger.events subject i n
  | .retryingHead _ _ => Level i heads n ∧ sent = ledger.events subject i n
  | .polling => heads ≠ [] ∧ Level i heads n ∧ sent = ledger.events subject i n
  | .readingLogs q => Climbing i heads n q.last ∧ q.Collected ledger subject n
      ∧ sent = ledger.events subject i n
  | .retryingLogs _ q => Climbing i heads n q.last ∧ q.Collected ledger subject n
      ∧ sent = ledger.events subject i n
  | .sending event rest head => Climbing i heads n head
      ∧ sent ++ event :: rest = ledger.events subject i (head.toNat + 1)
  | .failing _ _ _ => sent <+: ledger.events subject i (2 ^ 64)
  | .ended _ => sent <+: ledger.events subject i (2 ^ 64)

/-- The invariant of delivery, as a property of a history and the state after it. -/
def DeliveryInv (ledger : Ledger) (subject : Subject) (i : Nat) (past : History ε)
    (w : Watch ε) : Prop :=
  PhaseInv ledger subject i past.heads past.sent w.nextBlock.toNat w.phase

/-- The events up to some block are the first part of all there is. -/
theorem prefix_of_eq {ledger : Ledger} {subject : Subject} {i : Nat} {sent : List Sighting}
    {n : BlockNumber} (hstart : i ≤ n.toNat) (hsent : sent = ledger.events subject i n.toNat) :
    sent <+: ledger.events subject i (2 ^ 64) := by
  rw [hsent]
  exact ledger.events_prefix subject hstart (Nat.le_of_lt n.isLt)

/-- In every phase, what has been sent is the first part of all there is. -/
theorem PhaseInv.sent_prefix {ledger : Ledger} {subject : Subject} {i : Nat}
    {heads : List BlockNumber} {sent : List Sighting} {n : BlockNumber} {phase : Phase ε}
    (h : PhaseInv ledger subject i heads sent n.toNat phase) :
    sent <+: ledger.events subject i (2 ^ 64) := by
  cases phase with
  | readingHead progress => exact prefix_of_eq h.1.start_le h.2
  | retryingHead wait progress => exact prefix_of_eq h.1.start_le h.2
  | polling => exact prefix_of_eq h.2.1.start_le h.2.2
  | readingLogs q => exact prefix_of_eq h.1.start_le h.2.2
  | retryingLogs wait q => exact prefix_of_eq h.1.start_le h.2.2
  | sending event rest head =>
    have hstart := h.1.start_le
    have hnext := h.1.next_le
    have htop := h.1.top_lt
    have hall : sent ++ event :: rest <+: ledger.events subject i (2 ^ 64) := by
      rw [h.2]
      exact ledger.events_prefix subject (by omega) (by omega)
    exact (List.prefix_append _ _).trans hall
  | failing wait inQuery cause => exact h
  | ended ending => exact h

/-- Nothing more is sent by a watch that breaks down. -/
theorem PhaseInv.breakingDown {ledger : Ledger} {subject : Subject} {i : Nat}
    {sent : List Sighting} (h : sent <+: ledger.events subject i (2 ^ 64))
    (heads : List BlockNumber) (n : Nat) (inQuery : Bool) (cause : Retry.BreakDown)
    (wait? : Option Duration) :
    PhaseInv (ε := ε) ledger subject i heads sent n (Watch.breakingDown inQuery cause wait?) := by
  cases wait? with
  | none => exact h
  | some wait => exact h

/-- When the events of a poll are known, either there are some to send, or the poll is over. -/
theorem deliver_inv {ledger : Ledger} {subject : Subject} {i : Nat} {past : History ε}
    {w : Watch ε} {events : List Sighting} {head : BlockNumber}
    (hclimb : Climbing i past.heads w.nextBlock.toNat head)
    (hsum : past.sent ++ events = ledger.events subject i (head.toNat + 1)) :
    DeliveryInv ledger subject i past (w.deliver events head) := by
  cases events with
  | cons event rest => exact ⟨hclimb, hsum⟩
  | nil =>
    rw [List.append_nil] at hsum
    refine ⟨List.ne_nil_of_mem hclimb.top_mem, hclimb.level, ?_⟩
    show past.sent = ledger.events subject i (head + 1).toNat
    rw [BlockNumber.succ_toNat hclimb.top_lt]
    exact hsum

/-- What the answer about the head leads to. -/
theorem afterHead_inv {ledger : Ledger} {settings : WatchSettings} {subject : Subject} {i : Nat}
    {past : History ε} {w : Watch ε} {progress : Retry.Progress}
    {answer : Except ε BlockNumber} {draw : Nat}
    (hlevel : Level i past.heads w.nextBlock.toNat)
    (hsent : past.sent = ledger.events subject i w.nextBlock.toNat)
    (hfits : (Action.headAnswer answer draw).HeadFits) :
    DeliveryInv ledger subject i (past ++ [⟨w, .headAnswer answer draw⟩])
      (w.afterHead settings progress draw answer) := by
  have hsame : History.sent (past ++ [⟨w, .headAnswer answer draw⟩]) = past.sent := by
    simp [Moment.sent]
  unfold DeliveryInv
  rw [hsame, History.heads_append]
  cases answer with
  | error e =>
    have hheads : Moment.heads (⟨w, .headAnswer (.error e) draw⟩ : Moment ε) = [] := rfl
    rw [hheads, List.append_nil]
    simp only [afterHead]
    split
    next => exact prefix_of_eq hlevel.start_le hsent
    next => exact ⟨hlevel, hsent⟩
    next => exact .breakingDown (prefix_of_eq hlevel.start_le hsent) ..
  | ok head =>
    have hheads : Moment.heads (⟨w, .headAnswer (.ok head) draw⟩ : Moment ε) = [head] := rfl
    rw [hheads]
    simp only [afterHead]
    split
    next hhigh =>
      rw [BitVec.le_def] at hhigh
      refine ⟨hlevel.climb hhigh hfits, ⟨Nat.le_refl _, hhigh, ?_⟩, hsent⟩
      exact (ledger.events_self subject _).symm
    next hlow =>
      rw [BitVec.le_def, Nat.not_le] at hlow
      exact ⟨by simp, hlevel.ignore hlow, hsent⟩

/-- What the answer about logs leads to. -/
theorem afterLogs_inv {ledger : Ledger} {settings : WatchSettings} {subject : Subject} {i : Nat}
    {past : History ε} {w : Watch ε} {q : Query} {answer : Except ε (List Log)} {draw : Nat}
    (hclimb : Climbing i past.heads w.nextBlock.toNat q.last)
    (hcollected : q.Collected ledger subject w.nextBlock.toNat)
    (hsent : past.sent = ledger.events subject i w.nextBlock.toNat)
    (htrue : ∀ logs, answer = .ok logs → logs = ledger.answer (q.filter settings subject)) :
    DeliveryInv ledger subject i past (w.afterLogs settings subject q draw answer) := by
  have hprefix : past.sent <+: ledger.events subject i (2 ^ 64) :=
    prefix_of_eq hclimb.start_le hsent
  have hsound : (q.afterAnswer settings subject draw answer).Sound ledger subject
      w.nextBlock.toNat q.last := hcollected.afterAnswer htrue
  unfold afterLogs
  split
  next next hnext =>
    rw [hnext] at hsound
    obtain ⟨hcollected', hlast⟩ := hsound
    exact ⟨by rw [hlast]; exact hclimb, hcollected', hsent⟩
  next wait next hnext =>
    rw [hnext] at hsound
    obtain ⟨hcollected', hlast⟩ := hsound
    exact ⟨by rw [hlast]; exact hclimb, hcollected', hsent⟩
  next events hdone =>
    rw [hdone] at hsound
    refine deliver_inv hclimb ?_
    rw [hsent, show events = _ from hsound]
    exact ledger.events_append subject hclimb.start_le (by have := hclimb.next_le; omega)
  next => exact hprefix
  next => exact PhaseInv.breakingDown hprefix ..

/-- A moment in which no head is reported and nothing is sent adds nothing. -/
theorem DeliveryInv.append {ledger : Ledger} {subject : Subject} {i : Nat} {past : History ε}
    {w : Watch ε} {m : Moment ε} (h : DeliveryInv ledger subject i past w) (hheads : m.heads = [])
    (hsent : m.sent = []) : DeliveryInv ledger subject i (past ++ [m]) w := by
  unfold DeliveryInv
  rw [History.heads_append, History.sent_append, hheads, hsent, List.append_nil, List.append_nil]
  exact h

/-- **Every step keeps the invariant**, as long as the node answers by its ledger. -/
theorem step_deliveryInv {ledger : Ledger} {settings : WatchSettings} {subject : Subject}
    {i : Nat} {past : History ε} {w next : Watch ε} {action : Action ε}
    (h : DeliveryInv ledger subject i past w)
    (hanswers : ledger.Answers settings subject w action)
    (hstep : Step settings subject w action next) :
    DeliveryInv ledger subject i (past ++ [⟨w, action⟩]) next := by
  have hprefix : past.sent <+: ledger.events subject i (2 ^ 64) := PhaseInv.sent_prefix h
  have hended : ∀ ending, DeliveryInv ledger subject i past { w with phase := .ended ending } :=
    fun _ => hprefix
  unfold DeliveryInv at h
  cases hstep with
  | headAnswer hphase =>
    rw [hphase] at h
    exact afterHead_inv h.1 h.2 hanswers.1
  | @logsAnswer q answer draw hphase =>
    rw [hphase] at h
    refine DeliveryInv.append ?_ rfl rfl
    refine afterLogs_inv h.1 h.2.1 h.2.2 fun logs hok => ?_
    exact hanswers.2 logs draw q (by rw [hok]) hphase
  | elapse hwait =>
    refine DeliveryInv.append ?_ rfl rfl
    rcases afterWait_eq_some hwait with
      ⟨wait, progress, hphase, rfl⟩ | ⟨wait, q, hphase, rfl⟩
        | ⟨wait, inQuery, cause, hphase, rfl⟩ | ⟨hphase, rfl⟩
    · rw [hphase] at h
      exact h
    · rw [hphase] at h
      exact h
    · exact hended _
    · rw [hphase] at h
      exact h.2
  | @send event rest head hphase hroom =>
    -- what has been sent grows by the event that no longer waits
    rw [hphase] at h
    have hmoment : Moment.sent (⟨w, .send⟩ : Moment ε) = [event] := by
      simp only [Moment.sent, hphase]
    have hheads : History.heads (past ++ [⟨w, .send⟩]) = past.heads := by
      simp [Moment.heads]
    refine deliver_inv ?_ ?_
    · rw [hheads]
      exact h.1
    · rw [History.sent_append, hmoment, List.append_assoc, List.singleton_append]
      exact h.2
  | refuse => exact (hended _).append rfl rfl
  | stop => exact (hended _).append rfl rfl
  | hangUp => exact (hended _).append rfl rfl
  | tellStop => exact DeliveryInv.append (w := { w with stopping := true }) h rfl rfl
  | @receive event rest hbuffer hopen =>
    exact DeliveryInv.append
      (w := { w with channel := { w.channel with buffer := rest } }) h rfl rfl
  | closeReceiver =>
    exact DeliveryInv.append
      (w := { w with channel := { w.channel with receiver := .closed } }) h rfl rfl
  | dropReceiver =>
    exact DeliveryInv.append
      (w := { w with channel := { w.channel with receiver := .dropped, buffer := [] } }) h rfl rfl

theorem Run.deliveryInv {ledger : Ledger} {settings : WatchSettings} {subject : Subject}
    {first : BlockNumber} {capacity : Nat} {past : History ε} {w : Watch ε}
    (run : Run settings subject (ledger.Answers settings subject) (Watch.start first capacity)
      past w) :
    DeliveryInv ledger subject first.toNat past w := by
  refine run.invariant ?_ fun _ _ _ _ h hanswers hstep => step_deliveryInv h hanswers hstep
  refine ⟨⟨Nat.le_refl _, ?_, Or.inl rfl⟩, ?_⟩
  · intro head hmem
    cases hmem
  · exact (ledger.events_self subject _).symm

/-- A list of heads that is not empty has a highest one. -/
theorem exists_highest : ∀ {heads : List BlockNumber}, heads ≠ [] →
    ∃ top ∈ heads, ∀ head ∈ heads, head ≤ top
  | [], h => absurd rfl h
  | [head], _ => ⟨head, List.mem_singleton_self _, fun other hmem => by
      rw [List.mem_singleton.mp hmem]
      exact BitVec.le_refl _⟩
  | head :: second :: rest, _ => by
    obtain ⟨top, htop, hle⟩ := exists_highest (show second :: rest ≠ [] by simp)
    rcases BitVec.le_total head top with hlow | hhigh
    · refine ⟨top, List.mem_cons_of_mem _ htop, fun other hmem => ?_⟩
      rcases List.mem_cons.mp hmem with rfl | hrest
      · exact hlow
      · exact hle other hrest
    · refine ⟨head, List.mem_cons_self .., fun other hmem => ?_⟩
      rcases List.mem_cons.mp hmem with rfl | hrest
      · exact BitVec.le_refl _
      · exact BitVec.le_trans (hle other hrest) hhigh

/-- Between two polls the next block is the later of the start and the block after the highest
head. -/
theorem Level.eq_max {i n : Nat} {heads : List BlockNumber} {top : BlockNumber}
    (h : Level i heads n) (hmem : top ∈ heads) (hle : ∀ head ∈ heads, head ≤ top) :
    n = max i (top.toNat + 1) := by
  have hlow := h.heads_lt top hmem
  have hstart := h.start_le
  rcases h.reached with heq | ⟨head, hhead, heq⟩
  · omega
  · have := BitVec.le_def.mp (hle head hhead)
    omega

/-- **Exactly once, in order.** Let the watch start at any block with any settings and any channel,
at a node that answers for logs by a ledger which does not change. Whatever heads the node
reports, whichever requests fail, and whenever the receiver reads or goes and the owner tells the
watch to stop:

* the events that went into the channel are the first of the events of the blocks from the start
  on, and the receiver gets them in the same order;
* whenever the watch sleeps until its next poll, they are all events of the blocks from the start
  to the highest head reported so far, and the watch goes on at the block after them. -/
theorem sent_in_order {ledger : Ledger} {settings : WatchSettings} {subject : Subject}
    {first : BlockNumber} {capacity : Nat} {past : History ε} {w : Watch ε}
    (run : Run settings subject (ledger.Answers settings subject) (Watch.start first capacity)
      past w) :
    past.sent <+: ledger.events subject first.toNat (2 ^ 64)
      ∧ past.received <+: past.sent
      ∧ (w.channel.receiver ≠ .dropped → past.received ++ w.channel.buffer = past.sent)
      ∧ (w.phase = .polling → ∃ top ∈ past.heads, (∀ head ∈ past.heads, head ≤ top)
          ∧ past.sent = ledger.events subject first.toNat (top.toNat + 1)
          ∧ w.nextBlock.toNat = max first.toNat (top.toNat + 1)) := by
  have hinv := run.deliveryInv
  have hchannel := run.channelInv
  refine ⟨PhaseInv.sent_prefix hinv, hchannel.received_prefix, ?_, ?_⟩
  · intro hkept
    unfold ChannelInv at hchannel
    rwa [if_neg hkept] at hchannel
  · intro hpolling
    unfold DeliveryInv at hinv
    rw [hpolling] at hinv
    obtain ⟨hheads, hlevel, hsent⟩ := hinv
    obtain ⟨top, hmem, hle⟩ := exists_highest hheads
    have hnext := hlevel.eq_max hmem hle
    refine ⟨top, hmem, hle, ?_, hnext⟩
    rw [hsent, hnext]
    rcases Nat.le_total first.toNat (top.toNat + 1) with hreached | hbelow
    · rw [Nat.max_eq_right hreached]
    · -- no head has reached the start yet, so there are no events on either side
      rw [Nat.max_eq_left hbelow, ledger.events_self, ledger.events_of_le _ hbelow]

/-! ## A small chain

One account that is initialized in block 8, and nothing else. -/

/-- The log of the one event of the small chain. -/
def smallLog : Log where
  address := 0xfac
  topics := [Event.accountInitialized.topic, 1, 2]
  data := []
  blockNumber := some 8
  blockHash := none
  transactionHash := none
  logIndex := none

def smallLedger : Ledger := fun n => if n = 8 then [smallLog] else []

def smallSubject : Subject := ⟨aAccount, 0xfac⟩

/-- The one event of the small chain. -/
def smallSighting : Sighting := ⟨⟨.accountInitialized, 1, 2, ()⟩, 0xfac, some 8, none, none, none⟩

-- The topics are digests: they are compared as they stand, and no digest is computed.
theorem sightings_smallLog : smallSubject.sightings [smallLog] = [smallSighting] := by
  have hdecode : Occurrence.decode aAccount.events smallLog.topics smallLog.data
      = .ok ⟨.accountInitialized, 1, 2, ()⟩ := by
    simp only [Occurrence.decode, smallLog, aAccount, List.find?_cons, decide_true]
    rfl
  have hsighting : Sighting.ofLog aAccount.events smallLog = .ok smallSighting := by
    unfold Sighting.ofLog
    rw [hdecode]
    rfl
  simp [Subject.sightings, smallSubject, hsighting, Except.toOption]

theorem smallLedger_answer : smallLedger.answer (smallSubject.filter 8 8) = [smallLog] := by
  have hadmits : (smallSubject.filter 8 8).admits smallLog = true := by
    simp [Filter.admits, Subject.filter, smallSubject, smallLog, aAccount]
  have hanswer : smallLedger.answer (smallSubject.filter 8 8)
      = [smallLog].filter (smallSubject.filter 8 8).admits ++ [] := rfl
  rw [hanswer, List.append_nil, List.filter_cons_of_pos hadmits, List.filter_nil]

/-- A run over the small chain: the first request fails, then the head is still below the start,
then it is block 8, whose event is sent. -/
theorem smallRun : ∃ past w, Run {} smallSubject (smallLedger.Answers {} smallSubject)
    (Watch.start 8 1 : Watch String) past w ∧ w.phase = .polling ∧ past.sent = [smallSighting] := by
  have run : Run {} smallSubject (smallLedger.Answers {} smallSubject)
    (Watch.start 8 1 : Watch String) [] (Watch.start 8 1) := .start
  have run := run.step (.headAnswer (.error "down") 0)
    ⟨trivial, fun _ _ _ h => by cases h⟩ rfl
  have run := run.step .elapse ⟨trivial, fun _ _ _ h => by cases h⟩ rfl
  have run := run.step (.headAnswer (.ok 7) 0)
    ⟨show (7 : BlockNumber).toNat < 2 ^ 64 - 1 by decide, fun _ _ _ h => by cases h⟩ rfl
  have run := run.step .elapse ⟨trivial, fun _ _ _ h => by cases h⟩ rfl
  have run := run.step (.headAnswer (.ok 8) 0)
    ⟨show (8 : BlockNumber).toNat < 2 ^ 64 - 1 by decide, fun _ _ _ h => by cases h⟩ rfl
  have hstep : Watch.step? {} smallSubject
      (⟨8, .readingLogs { first := 8, last := 8 }, { capacity := 1 }, false⟩ : Watch String)
      (.logsAnswer (.ok [smallLog]) 0)
        = some ⟨8, .sending smallSighting [] 8, { capacity := 1 }, false⟩ := by
    simp only [step?, afterLogs, Query.afterAnswer, sightings_smallLog]
    rfl
  have run := run.step (.logsAnswer (.ok [smallLog]) 0)
    ⟨trivial, fun _ _ _ h hq => by cases h; cases hq; exact smallLedger_answer.symm⟩ hstep
  have run := run.step .send ⟨trivial, fun _ _ _ h => by cases h⟩ rfl
  exact ⟨_, _, run, rfl, rfl⟩

/-- On the small chain the watch sleeps with the one event sent, and will go on at block 9. -/
theorem sent_in_order_smallLedger : ∃ past w, Run {} smallSubject
    (smallLedger.Answers {} smallSubject) (Watch.start 8 1 : Watch String) past w
      ∧ w.phase = .polling ∧ past.sent = [smallSighting]
      ∧ ∃ top ∈ past.heads, (∀ head ∈ past.heads, head ≤ top)
        ∧ past.sent = smallLedger.events smallSubject 8 (top.toNat + 1)
        ∧ w.nextBlock.toNat = max 8 (top.toNat + 1) := by
  obtain ⟨past, w, run, hpolling, hsent⟩ := smallRun
  exact ⟨past, w, run, hpolling, hsent, (sent_in_order run).2.2.2 hpolling⟩

end Watch

end SmartAccount
