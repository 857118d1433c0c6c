import SmartAccount.Proofs.Watcher.Delivery
import SmartAccount.Proofs.Watcher.Traffic
/-!
# Which ranges a watch fetches

The node may answer whatever it likes. Still the ranges that a watch fetches lie side by side from
its start on, across polls as well as within one; each request lies between the next block and the
head that was just reported; and nothing is asked for twice but as a retry of the attempt before
(`fetches_in_turn`).

`FetchInv` follows the phases. At rest, what was fetched ends right before the next block, and
everything that was ever asked for lies below it (`AtRest`). During a query the same holds of the
first block of the current stretch, the current range itself aside (`Fetching`). Between a query
and the next rest only events are sent, and the block after the head takes the place of the next
block.
-/

namespace SmartAccount.Watch

variable {ε : Type} {settings : WatchSettings} {subject : Subject}

/-- The request for a range. -/
def Message.fetch (subject : Subject) (range : BlockRange) : Message ε :=
  .ask (.logs (subject.filterFor range))

theorem Message.fetch_inj {a b : BlockRange}
    (h : (Message.fetch subject a : Message ε) = .fetch subject b) : a = b := by
  simp only [fetch, Message.ask.injEq, Question.logs.injEq] at h
  exact Subject.filterFor_inj h

/-- Whether a message asks for logs. -/
def Message.asksLogs : Message ε → Bool
  | .ask (.logs _) => true
  | _ => false

theorem Message.ne_fetch {message : Message ε} (hother : message.asksLogs = false)
    (range : BlockRange) : message ≠ .fetch subject range := by
  rintro rfl
  cases hother

/-- A message that asks for no logs adds nothing to what was asked for. -/
theorem Message.fetch_mem {traffic : List (Message ε)} {message : Message ε} {range : BlockRange}
    (hmem : .fetch subject range ∈ traffic ++ [message]) (hother : message.asksLogs = false) :
    .fetch subject range ∈ traffic := by
  rcases List.mem_append.mp hmem with hold | hnew
  · exact hold
  · exact absurd (List.mem_singleton.mp hnew).symm (Message.ne_fetch hother range)

/-- A range is asked for right after an attempt at the same range that failed. -/
def IsRetry (subject : Subject) (before : List (Message ε)) (range : BlockRange) : Prop :=
  ∃ sofar e, before = sofar ++ [.fetch subject range, .failure e]

/-- No range is asked for again but as a retry. -/
def AsksInTurn (subject : Subject) (traffic : List (Message ε)) : Prop :=
  ∀ before range after, traffic = before ++ .fetch subject range :: after →
    .fetch subject range ∈ before → IsRetry subject before range

/-- One more message. -/
theorem AsksInTurn.concat {traffic : List (Message ε)} {message : Message ε}
    (h : AsksInTurn subject traffic)
    (hmessage : ∀ range, message = .fetch subject range → .fetch subject range ∈ traffic →
      IsRetry subject traffic range) :
    AsksInTurn subject (traffic ++ [message]) := by
  intro before range after heq
  rcases concat_eq_split heq with ⟨rfl, hlast⟩ | ⟨rest, htraffic⟩
  · exact hmessage range hlast
  · exact h before range rest htraffic

/-- One more message, which asks for no logs. -/
theorem AsksInTurn.concat_other {traffic : List (Message ε)} {message : Message ε}
    (h : AsksInTurn subject traffic) (hother : message.asksLogs = false) :
    AsksInTurn subject (traffic ++ [message]) :=
  h.concat fun range heq => absurd heq (Message.ne_fetch hother range)

/-! ## The invariant -/

/-- Everything up to, but not including, block `n` has been fetched from block `i` on, and nothing
else was asked for. -/
structure AtRest (subject : Subject) (i : Nat) (fetched : List BlockRange)
    (traffic : List (Message ε)) (n : Nat) : Prop where
  tiles : Tiles i fetched n
  asked : ∀ other, .fetch subject other ∈ traffic → other.last.toNat < n
  inTurn : AsksInTurn subject traffic

/-- A query on its way to the head that was reported last, when `n` is the next block. -/
structure Fetching (settings : WatchSettings) (subject : Subject) (i : Nat)
    (heads : List BlockNumber) (fetched : List BlockRange) (traffic : List (Message ε))
    (n : BlockNumber) (q : Query) : Prop where
  head_eq : heads.getLast? = some q.last
  next_le : n ≤ q.first
  first_le : q.first ≤ q.last
  fits : q.last.toNat < 2 ^ 64 - 1
  tiles : Tiles i fetched q.first.toNat
  asked : ∀ other, .fetch subject other ∈ traffic →
    other = q.range settings ∨ other.last < q.first
  inTurn : AsksInTurn subject traffic

/-- What holds in a phase of a watch that started at block `i`, when `heads` have been reported,
`fetched` has been fetched, `traffic` has passed and `n` is the next block. -/
def FetchPhase (settings : WatchSettings) (subject : Subject) (i : Nat) (heads : List BlockNumber)
    (fetched : List BlockRange) (traffic : List (Message ε)) (n : BlockNumber) : Phase ε → Prop
  | .readingHead _ => AtRest subject i fetched traffic n.toNat
  | .retryingHead _ _ => AtRest subject i fetched traffic n.toNat
  | .polling => AtRest subject i fetched traffic n.toNat
  | .readingLogs q => Fetching settings subject i heads fetched traffic n q
      ∧ ∃ sofar, traffic = sofar ++ [.fetch subject (q.range settings)]
  | .retryingLogs _ q => Fetching settings subject i heads fetched traffic n q
      ∧ IsRetry subject traffic (q.range settings)
  | .sending _ _ head => n ≤ head ∧ head.toNat < 2 ^ 64 - 1
      ∧ AtRest subject i fetched traffic (head.toNat + 1)
  | .failing _ _ _ => (∃ j, Tiles i fetched j) ∧ AsksInTurn subject traffic
  | .ended _ => (∃ j, Tiles i fetched j) ∧ AsksInTurn subject traffic

/-- The invariant, as a property of a history and the state after it. -/
def FetchInv (settings : WatchSettings) (subject : Subject) (i : Nat) (past : History ε)
    (w : Watch ε) : Prop :=
  FetchPhase settings subject i past.heads (past.fetched settings)
    (past.traffic settings subject) w.nextBlock w.phase

section Steps

variable {i : Nat} {heads : List BlockNumber} {fetched : List BlockRange}
  {traffic : List (Message ε)} {n : BlockNumber} {q : Query}

/-- In every phase the ranges that were fetched lie side by side, and they were asked for in
turn. -/
theorem FetchPhase.safe {phase : Phase ε}
    (h : FetchPhase settings subject i heads fetched traffic n phase) :
    (∃ j, Tiles i fetched j) ∧ AsksInTurn subject traffic := by
  cases phase with
  | readingHead progress => exact ⟨⟨_, h.tiles⟩, h.inTurn⟩
  | retryingHead wait progress => exact ⟨⟨_, h.tiles⟩, h.inTurn⟩
  | polling => exact ⟨⟨_, h.tiles⟩, h.inTurn⟩
  | readingLogs q => exact ⟨⟨_, h.1.tiles⟩, h.1.inTurn⟩
  | retryingLogs wait q => exact ⟨⟨_, h.1.tiles⟩, h.1.inTurn⟩
  | sending event rest head => exact ⟨⟨_, h.2.2.tiles⟩, h.2.2.inTurn⟩
  | failing wait inQuery cause => exact h
  | ended ending => exact h

/-- Nothing more is known of a watch that breaks down. -/
theorem FetchPhase.breakingDown (h : (∃ j, Tiles i fetched j) ∧ AsksInTurn subject traffic)
    (inQuery : Bool) (cause : Retry.BreakDown) (wait? : Option Duration) :
    FetchPhase settings subject i heads fetched traffic n
      (Watch.breakingDown inQuery cause wait?) := by
  cases wait? with
  | none => exact h
  | some wait => exact h

/-! ## What a move does to it -/

/-- A message that asks for no logs leaves a watch at rest. -/
theorem AtRest.concat_other {m : Nat} {message : Message ε} (h : AtRest subject i fetched traffic m)
    (hother : message.asksLogs = false) :
    AtRest subject i fetched (traffic ++ [message]) m := by
  refine ⟨h.tiles, ?_, h.inTurn.concat_other hother⟩
  intro other hmem
  exact h.asked other (Message.fetch_mem hmem hother)

/-- At rest, a range from the next block on can be asked for: it has not been asked for before. -/
theorem AtRest.fetch (h : AtRest subject i fetched traffic q.first.toNat)
    (hhead : heads.getLast? = some q.last) (hnext : n ≤ q.first) (hle : q.first ≤ q.last)
    (hfits : q.last.toNat < 2 ^ 64 - 1) :
    FetchPhase settings subject i heads fetched
      (traffic ++ [.fetch subject (q.range settings)]) n (.readingLogs q) := by
  refine ⟨⟨hhead, hnext, hle, hfits, h.tiles, ?_, ?_⟩, traffic, rfl⟩
  · intro other hmem
    rcases List.mem_append.mp hmem with hold | hnew
    · exact .inr (BitVec.lt_def.mpr (h.asked other hold))
    · exact .inl (Message.fetch_inj (List.mem_singleton.mp hnew))
  · refine h.inTurn.concat fun range heq hbefore => ?_
    obtain rfl := Message.fetch_inj heq
    have hbelow := h.asked _ hbefore
    exact absurd (Query.range_first_le settings hle)
      (BitVec.not_le.mpr (BitVec.lt_def.mpr hbelow))

/-- Once the logs of the current stretch have come, everything up to its end has been fetched. -/
theorem Fetching.atRest (h : Fetching settings subject i heads fetched traffic n q)
    (logs : List Log) :
    AtRest subject i (fetched ++ [q.range settings]) (traffic ++ [.logs logs])
      ((q.stretchEnd settings).toNat + 1) := by
  have hle := Query.range_first_le settings h.first_le
  refine ⟨h.tiles.concat rfl hle, ?_, h.inTurn.concat_other rfl⟩
  intro other hmem
  rcases h.asked other (Message.fetch_mem hmem rfl) with rfl | hbelow
  · exact Nat.lt_succ_self _
  · rw [BitVec.le_def] at hle
    rw [BitVec.lt_def] at hbelow
    exact Nat.lt_succ_of_le (Nat.le_trans (Nat.le_of_lt hbelow) hle)

/-- If there are more blocks, the next stretch is asked for. -/
theorem Fetching.onward {onward : Query}
    (h : Fetching settings subject i heads fetched traffic n q)
    (hmore : q.stretchEnd settings < q.last) {logs : List Log}
    (honward : onward = { first := q.stretchEnd settings + 1, last := q.last,
                          found := q.found ++ subject.sightings logs }) :
    FetchPhase settings subject i heads (fetched ++ [q.range settings])
      (traffic ++ [.logs logs] ++ [.fetch subject (onward.range settings)]) n
      (.readingLogs onward) := by
  have hfirst := Query.range_first_le settings h.first_le
  have hsucc := Query.stretchEnd_succ_toNat (BitVec.lt_def.mp hmore)
  have hrest := h.atRest logs
  rw [← hsucc] at hrest
  subst honward
  refine AtRest.fetch (q := ⟨q.stretchEnd settings + 1, q.last, {}, _⟩) hrest h.head_eq ?_ ?_
    h.fits
  · -- the next stretch starts behind the current one, which starts behind the next block
    refine BitVec.le_trans h.next_le (BitVec.le_trans hfirst (BitVec.le_def.mpr ?_))
    rw [hsucc]
    exact Nat.le_succ _
  · rw [BitVec.le_def, hsucc]
    exact BitVec.lt_def.mp hmore

/-- A failure leads to a retry of the same range. -/
theorem Fetching.again {next : Retry.Progress} {wait : Duration}
    (h : Fetching settings subject i heads fetched traffic n q)
    (hasked : ∃ sofar, traffic = sofar ++ [.fetch subject (q.range settings)]) (e : ε) :
    FetchPhase settings subject i heads fetched (traffic ++ [.failure e]) n
      (.retryingLogs wait { q with progress := next }) := by
  obtain ⟨sofar, rfl⟩ := hasked
  refine ⟨⟨h.head_eq, h.next_le, h.first_le, h.fits, h.tiles, ?_, ?_⟩, sofar, e, ?_⟩
  · intro other hmem
    exact h.asked other (Message.fetch_mem hmem rfl)
  · exact h.inTurn.concat_other rfl
  · exact List.append_assoc ..

/-- The retry asks for the same range. -/
theorem Fetching.retry (h : Fetching settings subject i heads fetched traffic n q)
    (hretry : IsRetry subject traffic (q.range settings)) :
    FetchPhase settings subject i heads fetched
      (traffic ++ [.fetch subject (q.range settings)]) n (.readingLogs q) := by
  refine ⟨⟨h.head_eq, h.next_le, h.first_le, h.fits, h.tiles, ?_, ?_⟩, traffic, rfl⟩
  · intro other hmem
    rcases List.mem_append.mp hmem with hold | hnew
    · exact h.asked other hold
    · exact .inl (Message.fetch_inj (List.mem_singleton.mp hnew))
  · refine h.inTurn.concat fun range heq _ => ?_
    obtain rfl := Message.fetch_inj heq
    exact hretry

/-- Once everything up to the head has been fetched, the events are sent, and then the block after
the head is the next one. -/
theorem AtRest.deliver {w : Watch ε} {events : List Sighting} {head : BlockNumber}
    (h : AtRest subject i fetched traffic (head.toNat + 1)) (hnext : w.nextBlock ≤ head)
    (hfits : head.toNat < 2 ^ 64 - 1) :
    FetchPhase settings subject i heads fetched traffic (w.deliver events head).nextBlock
        (w.deliver events head).phase
      ∧ w.nextBlock ≤ (w.deliver events head).nextBlock := by
  cases events with
  | cons event rest => exact ⟨⟨hnext, hfits, h⟩, BitVec.le_refl _⟩
  | nil =>
    have hsucc := BlockNumber.succ_toNat hfits
    rw [BitVec.le_def] at hnext
    refine ⟨?_, ?_⟩
    · show AtRest subject i fetched traffic (head + 1).toNat
      rw [hsucc]
      exact h
    · show w.nextBlock ≤ head + 1
      rw [BitVec.le_def, hsucc]
      omega

/-- **Every move keeps the invariant, and the next block never goes back.** -/
theorem Move.fetchPhase {w next : Watch ε} {action : Action ε} {seen : Seen ε}
    (hmove : Move settings subject w action seen next) (hfits : action.HeadFits)
    (h : FetchPhase settings subject i heads fetched traffic w.nextBlock w.phase) :
    FetchPhase settings subject i (heads ++ seen.heads) (fetched ++ seen.fetched)
        (traffic ++ seen.traffic) next.nextBlock next.phase
      ∧ w.nextBlock ≤ next.nextBlock := by
  have hsafe := h.safe
  have hfailed : ∀ e, (∃ j, Tiles i fetched j) ∧ AsksInTurn subject (traffic ++ [.failure e]) :=
    fun e => ⟨hsafe.1, hsafe.2.concat_other rfl⟩
  cases hmove with
  | @newHead progress head draw q hphase hle hq =>
    rw [hphase] at h
    have hread : FetchPhase settings subject i (heads ++ [head]) fetched
        (traffic ++ [.head head] ++ [.fetch subject (q.range settings)]) w.nextBlock
        (.readingLogs q) := by
      subst hq
      exact AtRest.fetch (q := ⟨w.nextBlock, head, {}, []⟩) (h.concat_other rfl)
        List.getLast?_concat (BitVec.le_refl _) hle hfits
    rw [List.append_assoc] at hread
    rw [List.append_nil]
    exact ⟨hread, BitVec.le_refl _⟩
  | oldHead hphase hlt =>
    rw [hphase] at h
    refine ⟨?_, BitVec.le_refl _⟩
    rw [List.append_nil]
    exact h.concat_other rfl
  | headFailed hphase hlast =>
    refine ⟨?_, BitVec.le_refl _⟩
    rw [List.append_nil, List.append_nil]
    exact hfailed _
  | headAgain hphase =>
    rw [hphase] at h
    refine ⟨?_, BitVec.le_refl _⟩
    rw [List.append_nil, List.append_nil]
    exact h.concat_other rfl
  | headStuck =>
    refine ⟨?_, BitVec.le_refl _⟩
    rw [List.append_nil, List.append_nil]
    exact .breakingDown (hfailed _) ..
  | @someLogs q onward logs draw hphase hmore honward =>
    rw [hphase] at h
    have hread := h.1.onward hmore honward
    rw [List.append_assoc] at hread
    rw [List.append_nil]
    exact ⟨hread, BitVec.le_refl _⟩
  | @lastLogs q logs draw hphase hlast =>
    rw [hphase] at h
    obtain ⟨hfetching, -⟩ := h
    have hrest := hfetching.atRest logs
    rw [hlast] at hrest
    rw [List.append_nil]
    exact hrest.deliver (BitVec.le_trans hfetching.next_le hfetching.first_le) hfetching.fits
  | logsFailed hphase hlast =>
    refine ⟨?_, BitVec.le_refl _⟩
    rw [List.append_nil, List.append_nil]
    exact hfailed _
  | @logsAgain q progress e draw wait hphase =>
    rw [hphase] at h
    refine ⟨?_, BitVec.le_refl _⟩
    rw [List.append_nil, List.append_nil]
    exact h.1.again h.2 e
  | logsStuck =>
    refine ⟨?_, BitVec.le_refl _⟩
    rw [List.append_nil, List.append_nil]
    exact .breakingDown (hfailed _) ..
  | askHeadAgain hphase =>
    rw [hphase] at h
    refine ⟨?_, BitVec.le_refl _⟩
    rw [List.append_nil, List.append_nil]
    exact h.concat_other rfl
  | askLogsAgain hphase =>
    rw [hphase] at h
    refine ⟨?_, BitVec.le_refl _⟩
    rw [List.append_nil, List.append_nil]
    exact h.1.retry h.2
  | breakDown hphase =>
    refine ⟨?_, BitVec.le_refl _⟩
    rw [List.append_nil, List.append_nil, List.append_nil]
    exact hsafe
  | wake hphase =>
    rw [hphase] at h
    refine ⟨?_, BitVec.le_refl _⟩
    rw [List.append_nil, List.append_nil]
    exact h.concat_other rfl
  | send hphase =>
    rw [hphase] at h
    rw [List.append_nil, List.append_nil, List.append_nil]
    exact h.2.2.deliver h.1 h.2.1
  | quit hlive hwhy =>
    refine ⟨?_, BitVec.le_refl _⟩
    rw [List.append_nil, List.append_nil, List.append_nil]
    exact hsafe
  | aside hphase hnext hkept =>
    rw [List.append_nil, List.append_nil, List.append_nil, hphase, hnext]
    exact ⟨h, BitVec.le_refl _⟩

end Steps

theorem step_fetchInv {i : Nat} {past : History ε} {w next : Watch ε} {action : Action ε}
    (h : FetchInv settings subject i past w) (hfits : action.HeadFits)
    (hstep : Step settings subject w action next) :
    FetchInv settings subject i (past ++ [⟨w, action⟩]) next := by
  unfold FetchInv at h ⊢
  rw [History.heads_append, History.fetched_append, History.traffic_append]
  exact (hstep.move.fetchPhase hfits h).1

/-! ## Whole runs -/

/-- A watch asks for logs only as it comes to wait for them. -/
theorem Move.readingLogs {w next : Watch ε} {action : Action ε} {seen : Seen ε} {filter : Filter}
    (hmove : Move settings subject w action seen next)
    (hasks : .ask (.logs filter) ∈ seen.traffic) :
    ∃ q, next.phase = .readingLogs q ∧ filter = q.filter settings subject
      ∧ next.nextBlock = w.nextBlock := by
  cases hmove with
  | @newHead progress head draw q =>
    refine ⟨q, rfl, ?_, rfl⟩
    simpa using hasks
  | @someLogs q onward =>
    refine ⟨onward, rfl, ?_, rfl⟩
    simpa using hasks
  | @askLogsAgain wait q =>
    refine ⟨q, rfl, ?_, rfl⟩
    simpa using hasks
  | _ => simp at hasks

variable {first : BlockNumber} {capacity : Nat} {past : History ε} {w : Watch ε}

theorem Run.fetchInv
    (run : Run settings subject (fun _ action => action.HeadFits) (Watch.start first capacity)
      past w) :
    FetchInv settings subject first.toNat past w := by
  refine run.invariant ?_ fun _ _ _ _ h hfits hstep => step_fetchInv h hfits hstep
  refine ⟨rfl, ?_, ?_⟩
  · intro other hmem
    cases List.mem_singleton.mp hmem
  · intro before range after heq hbefore
    have hmem : .fetch subject range ∈ History.traffic settings subject ([] : History ε) := by
      rw [heq]
      exact List.mem_append_left _ hbefore
    cases List.mem_singleton.mp hmem

/-- The next blocks of a run, in the order of time. -/
def History.nextBlocks (past : History ε) (w : Watch ε) : List BlockNumber :=
  past.map (·.before.nextBlock) ++ [w.nextBlock]

/-- **The next block never goes back.** -/
theorem Run.nextBlocks_ascend
    (run : Run settings subject (fun _ action => action.HeadFits) (Watch.start first capacity)
      past w) :
    (past.nextBlocks w).Pairwise (· ≤ ·) := by
  induction run with
  | start => exact List.pairwise_singleton _ _
  | @step past w next run action hfits hstep ih =>
    have hforward := ((step?_eq_some_iff.mp hstep).move.fetchPhase hfits run.fetchInv).2
    have hsame : History.nextBlocks (past ++ [⟨w, action⟩]) next
        = past.nextBlocks w ++ [next.nextBlock] := by
      simp [History.nextBlocks]
    rw [hsame, List.pairwise_append]
    refine ⟨ih, List.pairwise_singleton _ _, ?_⟩
    intro block hblock last hlast
    rw [List.mem_singleton.mp hlast]
    refine BitVec.le_trans ?_ hforward
    rcases List.mem_append.mp hblock with hold | hnew
    · exact (List.pairwise_append.mp ih).2.2 block hold w.nextBlock (List.mem_singleton_self _)
    · rw [List.mem_singleton.mp hnew]
      exact BitVec.le_refl _

/-- Whenever a watch asks for logs, it does so for a range between its next block and the head
reported last, and for no more blocks than are set. -/
theorem Run.asks_within
    (run : Run settings subject (fun _ action => action.HeadFits) (Watch.start first capacity)
      past w)
    {earlier later : History ε} {m : Moment ε} (hmoment : past = earlier ++ m :: later)
    {filter : Filter} (hasks : .ask (.logs filter) ∈ m.traffic settings subject) :
    ∃ range head, filter = subject.filterFor range
      ∧ (earlier ++ [m]).heads.getLast? = some head
      ∧ m.before.nextBlock ≤ range.first ∧ range.first ≤ range.last ∧ range.last ≤ head
      ∧ range.size ≤ max 1 settings.maxBlockRange.toNat := by
  obtain ⟨next, hrun, hfits, hstep⟩ := run.split hmoment
  have hinv := step_fetchInv hrun.fetchInv hfits hstep
  obtain ⟨q, hphase, rfl, hnext⟩ := hstep.move.readingLogs hasks
  unfold FetchInv at hinv
  rw [hphase, hnext] at hinv
  obtain ⟨hfetching, -⟩ := hinv
  exact ⟨q.range settings, q.last, rfl, hfetching.head_eq, hfetching.next_le,
    Query.range_first_le settings hfetching.first_le,
    BitVec.le_def.mpr (Query.stretchEnd_le_last settings q), Query.range_size_le settings q⟩

/-- **What a watch fetches.** Whatever the node answers for logs, whichever requests fail, and
whatever heads it reports as long as there is a block after each of them:

* every request for logs lies between the next block and the head that was just reported, and is
  for at most as many blocks as are set, or for one if that is zero;
* the ranges that were fetched lie side by side from the start on, across polls as well as within
  one;
* no range is asked for again but as a retry of the attempt right before, which failed;
* the next block never goes back;
* no logs are asked for while the head that was reported last is below the next block. -/
theorem fetches_in_turn
    (run : Run settings subject (fun _ action => action.HeadFits) (Watch.start first capacity)
      past w) :
    (∀ (earlier later : History ε) m filter, past = earlier ++ m :: later →
      .ask (.logs filter) ∈ m.traffic settings subject →
        ∃ range head, filter = subject.filterFor range
          ∧ (earlier ++ [m]).heads.getLast? = some head
          ∧ m.before.nextBlock ≤ range.first ∧ range.first ≤ range.last ∧ range.last ≤ head
          ∧ range.size ≤ max 1 settings.maxBlockRange.toNat)
      ∧ (∃ j, Tiles first.toNat (past.fetched settings) j)
      ∧ AsksInTurn subject (past.traffic settings subject)
      ∧ (past.nextBlocks w).Pairwise (· ≤ ·)
      ∧ (∀ (earlier later : History ε) m head, past = earlier ++ m :: later →
          (earlier ++ [m]).heads.getLast? = some head → head < m.before.nextBlock →
          ∀ filter, .ask (.logs filter) ∉ m.traffic settings subject) := by
  obtain ⟨htiles, hturn⟩ := FetchPhase.safe run.fetchInv
  refine ⟨?_, htiles, hturn, run.nextBlocks_ascend, ?_⟩
  · intro earlier later m filter hmoment hasks
    exact run.asks_within hmoment hasks
  · intro earlier later m head hmoment hhead hlow filter hasks
    -- a request would be for a range that is not empty, between the next block and the head
    obtain ⟨range, top, -, htop, hnext, hle, hlast, -⟩ := run.asks_within hmoment hasks
    obtain rfl : head = top := Option.some.inj (hhead.symm.trans htop)
    have hreach := BitVec.le_trans hnext (BitVec.le_trans hle hlast)
    exact absurd hreach (BitVec.not_le.mpr hlow)

/-- Ten blocks at once. -/
def tenAtOnce : WatchSettings := { maxBlockRange := 10 }

/-- What passes in two polls, up to block 25 and up to block 30. The second request of the first
poll fails at first; between the polls the head goes back. -/
def climbingTraffic : List (Message String) :=
  [.ask .head, .head 25, .fetch smallSubject ⟨0, 9⟩, .logs [],
    .fetch smallSubject ⟨10, 19⟩, .failure "down", .fetch smallSubject ⟨10, 19⟩, .logs [],
    .fetch smallSubject ⟨20, 25⟩, .logs [],
    .ask .head, .head 20,
    .ask .head, .head 30, .fetch smallSubject ⟨26, 30⟩, .logs []]

theorem climbingRun : ∃ past w, Run tenAtOnce smallSubject (fun _ action => action.HeadFits)
    (Watch.start 0 1 : Watch String) past w
      ∧ past.fetched tenAtOnce = [⟨0, 9⟩, ⟨10, 19⟩, ⟨20, 25⟩, ⟨26, 30⟩]
      ∧ past.traffic tenAtOnce smallSubject = climbingTraffic := by
  have run : Run tenAtOnce smallSubject (fun _ action => action.HeadFits)
    (Watch.start 0 1 : Watch String) [] (Watch.start 0 1) := .start
  have run := run.step (.headAnswer (.ok 25) 0)
    (show (25 : BlockNumber).toNat < 2 ^ 64 - 1 by decide) rfl
  have run := run.step (.logsAnswer (.ok []) 0) trivial rfl
  have run := run.step (.logsAnswer (.error "down") 0) trivial rfl
  have run := run.step .elapse trivial rfl
  have run := run.step (.logsAnswer (.ok []) 0) trivial rfl
  have run := run.step (.logsAnswer (.ok []) 0) trivial rfl
  have run := run.step .elapse trivial rfl
  have run := run.step (.headAnswer (.ok 20) 0)
    (show (20 : BlockNumber).toNat < 2 ^ 64 - 1 by decide) rfl
  have run := run.step .elapse trivial rfl
  have run := run.step (.headAnswer (.ok 30) 0)
    (show (30 : BlockNumber).toNat < 2 ^ 64 - 1 by decide) rfl
  have run := run.step (.logsAnswer (.ok []) 0) trivial rfl
  exact ⟨_, _, run, rfl, rfl⟩

/-- In the run with two polls, blocks 10 to 19 are asked for twice, the second time as a retry. -/
theorem fetches_in_turn_climbingRun : ∃ past w,
    Run tenAtOnce smallSubject (fun _ action => action.HeadFits)
      (Watch.start 0 1 : Watch String) past w
      ∧ (∃ j, Tiles 0 [⟨0, 9⟩, ⟨10, 19⟩, ⟨20, 25⟩, ⟨26, 30⟩] j)
      ∧ AsksInTurn smallSubject climbingTraffic
      ∧ (past.nextBlocks w).Pairwise (· ≤ ·) := by
  obtain ⟨past, w, run, hfetched, htraffic⟩ := climbingRun
  obtain ⟨-, htiles, hturn, hascend, -⟩ := fetches_in_turn run
  rw [hfetched] at htiles
  rw [htraffic] at hturn
  exact ⟨past, w, run, htiles, hturn, hascend⟩

end SmartAccount.Watch
