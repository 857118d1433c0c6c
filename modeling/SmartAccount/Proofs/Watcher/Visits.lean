import Mathlib.Algebra.Order.BigOperators.Group.List
import SmartAccount.Proofs.Retry
import SmartAccount.Proofs.Watcher.Chunking
/-!
# A query whose requests may fail

A query works through its ranges from the first to the last (`stretches`). It asks for a range until
it gets the logs, or until as many attempts have failed as are allowed; it does not come back to a
range, and after a range that failed for good it asks for nothing more. So its requests are those of
one `Visit` after the other: failures at a range, then its logs. `Went` says so of a whole record,
together with the outcome that belongs to it. It may also break down between two attempts, but only
if some wait is too long for a span of time.

The invariant is `Visiting`: the visits so far, and the failures at the current range, whose number
is what the counter of the attempts says. `course_visits` is the result. It holds in every world,
since the outcome is read off the answers that are on record.
-/

namespace SmartAccount

variable {σ ε : Type}

/-- How a range was fetched: the errors of the attempts that failed, then the logs. -/
structure Visit (ε : Type) where
  range : BlockRange
  errors : List ε
  logs : List Log

/-- Requests for a range that all fail. -/
def Subject.failures (s : Subject) (r : BlockRange) (errors : List ε) : List (Reply ε) :=
  errors.map fun e => ⟨s.filterFor r, .error e⟩

/-- The requests of a visit are all for its range, and the last one gets the logs. -/
def Visit.replies (s : Subject) (v : Visit ε) : List (Reply ε) :=
  s.failures v.range v.errors ++ [⟨s.filterFor v.range, .ok v.logs⟩]

/-- The answers to the requests for a range. -/
def Subject.answersFor (s : Subject) (replies : List (Reply ε)) (r : BlockRange) :
    List (Except ε (List Log)) :=
  (replies.filter (·.filter = s.filterFor r)).map Reply.answer

/-- The requests for a range come to its logs after fewer than `attempts` failures. -/
def Subject.Fetches (s : Subject) (attempts : Nat) (replies : List (Reply ε)) (r : BlockRange) :
    Prop :=
  ∃ (errors : List ε) (logs : List Log), errors.length < attempts
    ∧ s.answersFor replies r = errors.map .error ++ [.ok logs]

/-! ## The ranges of a query -/

/-- Each range lies before those behind it, so none comes twice. -/
theorem Tiles.nodup {i j : Nat} {ranges : List BlockRange} (h : Tiles i ranges j) :
    ranges.Nodup := by
  induction ranges generalizing i with
  | nil => exact .nil
  | cons r rest ih =>
    obtain ⟨-, hle, hrest⟩ := h
    refine List.nodup_cons.mpr ⟨fun hmem => ?_, ih hrest⟩
    have hbehind := hrest.le_first r hmem
    rw [BitVec.le_def] at hle
    omega

namespace Query

/-- The ranges that a query asks for, one after the other, for the blocks from `first` to `last`. -/
def stretches (settings : WatchSettings) (first last : BlockNumber) : List BlockRange :=
  if stretchEnd settings ⟨first, last, {}, []⟩ < last then
    range settings ⟨first, last, {}, []⟩
      :: stretches settings (stretchEnd settings ⟨first, last, {}, []⟩ + 1) last
  else [range settings ⟨first, last, {}, []⟩]
termination_by last.toNat - first.toNat
decreasing_by
  next hmore =>
    rw [BitVec.lt_def] at hmore
    have hend := stretchEnd_toNat settings ⟨first, last, {}, []⟩
    have hnext := stretchEnd_succ_toNat hmore
    dsimp only at hend hnext
    omega

variable {settings : WatchSettings} {subject : Subject}

/-- The ranges from the current one on. -/
theorem stretches_of_lt {q : Query} (h : q.stretchEnd settings < q.last) :
    stretches settings q.first q.last
      = q.range settings :: stretches settings (q.stretchEnd settings + 1) q.last := by
  rw [stretches]
  exact if_pos h

theorem stretches_of_le {q : Query} (h : q.last ≤ q.stretchEnd settings) :
    stretches settings q.first q.last = [q.range settings] := by
  rw [stretches]
  exact if_neg (BitVec.not_lt.mpr h)

/-- Full ranges, and then those that a query asks for from there on. -/
theorem cuts_append_stretches {start first last : BlockNumber} {ranges : List BlockRange}
    (htiles : Tiles start.toNat ranges first.toNat)
    (hfull : ∀ r ∈ ranges, r.size = stretchSize settings) (hle : first ≤ last) :
    Cuts (stretchSize settings) start last (ranges ++ stretches settings first last) := by
  induction first using stretches.induct settings last generalizing ranges with
  | case1 first hmore ih =>
    have hnext := stretchEnd_succ_toNat (BitVec.lt_def.mp hmore)
    have hrange := range_first_le settings (q := ⟨first, last, {}, []⟩) hle
    rw [stretches_of_lt (q := ⟨first, last, {}, []⟩) hmore, List.append_cons]
    refine ih ?_ (fun r hmem => ?_) ?_
    · rw [hnext]
      exact htiles.concat rfl hrange
    · rcases List.mem_append.mp hmem with hold | hnew
      · exact hfull r hold
      · rw [List.mem_singleton.mp hnew]
        exact range_size_eq hmore
    · rw [BitVec.le_def, hnext]
      exact BitVec.lt_def.mp hmore
  | case2 first hlast =>
    rw [BitVec.not_lt] at hlast
    rw [stretches_of_le (q := ⟨first, last, {}, []⟩) hlast]
    have hend : stretchEnd settings ⟨first, last, {}, []⟩ = last := by
      have hstretch := stretchEnd_le_last settings ⟨first, last, {}, []⟩
      rw [BitVec.le_def] at hlast
      exact BitVec.eq_of_toNat_eq (Nat.le_antisymm hstretch hlast)
    refine Cuts.of_concat ?_ htiles hfull (range_first_le settings hle) hend
      (range_size_le settings _)
    exact Nat.lt_of_lt_of_le Nat.one_pos (Nat.le_max_left _ _)

/-- The ranges of a query cut its blocks. -/
theorem cuts_stretches (settings : WatchSettings) {first last : BlockNumber} (h : first ≤ last) :
    Cuts (stretchSize settings) first last (stretches settings first last) := by
  have hnone : Tiles first.toNat [] first.toNat := rfl
  exact cuts_append_stretches hnone (fun _ hmem => nomatch hmem) h

/-! ## The record of a query -/

/-- How a query went with all its attempts at each of its ranges: what it came to and its requests
with their answers. -/
inductive Went (options : Retry.Options) (subject : Subject) (ranges : List BlockRange) :
    Outcome ε → List (Reply ε) → Prop
  /-- Every range was visited in its turn, and the logs of the visits are all that counts. -/
  | found (visits : List (Visit ε)) (hranges : visits.map Visit.range = ranges)
      (hfew : ∀ v ∈ visits, v.errors.length < max 1 options.maxAttempts) :
      Went options subject ranges (.found (subject.sightings (visits.flatMap Visit.logs)))
        (visits.flatMap (Visit.replies subject))
  /-- Some ranges were visited, and at the next one every attempt failed, the last with `e`. -/
  | failed (visits : List (Visit ε)) (r : BlockRange) (rest : List BlockRange)
      (errors : List ε) (e : ε) (hranges : visits.map Visit.range ++ r :: rest = ranges)
      (hfew : ∀ v ∈ visits, v.errors.length < max 1 options.maxAttempts)
      (hall : errors.length + 1 = max 1 options.maxAttempts) :
      Went options subject ranges (.failed e)
        (visits.flatMap (Visit.replies subject) ++ subject.failures r (errors ++ [e]))
  /-- Some ranges were visited, and after a failure at the next one some wait was too long. -/
  | brokenDown (visits : List (Visit ε)) (r : BlockRange) (rest : List BlockRange)
      (errors : List ε) (e : ε) (cause : Retry.BreakDown)
      (hranges : visits.map Visit.range ++ r :: rest = ranges)
      (hfew : ∀ v ∈ visits, v.errors.length < max 1 options.maxAttempts)
      (hsome : errors.length + 1 ≤ max 1 options.maxAttempts) (hunfit : ¬ options.Fit) :
      Went options subject ranges (.brokenDown cause)
        (visits.flatMap (Visit.replies subject) ++ subject.failures r (errors ++ [e]))

/-- Where a query stands: ranges that were visited, and failures at the current one. -/
structure Visiting (settings : WatchSettings) (subject : Subject) (ranges : List BlockRange)
    (visits : List (Visit ε)) (errors : List ε) (q : Query) (record : List (Reply ε)) : Prop where
  ranges_eq : visits.map Visit.range ++ stretches settings q.first q.last = ranges
  few : ∀ v ∈ visits, v.errors.length < settings.retry.attempts
  attempt_eq : q.progress.attempt = errors.length + 1
  more : errors.length < settings.retry.attempts
  bounds : q.progress.InBounds settings.retry
  found_eq : q.found = subject.sightings (visits.flatMap Visit.logs)
  record_eq : record = visits.flatMap (Visit.replies subject)
    ++ subject.failures (q.range settings) errors

/-- A query on its way. -/
def OnItsWay (settings : WatchSettings) (subject : Subject) (ranges : List BlockRange) (q : Query)
    (record : List (Reply ε)) : Prop :=
  ∃ visits errors, q.Visiting settings subject ranges visits errors record

variable {ranges : List BlockRange} {visits : List (Visit ε)} {errors : List ε} {q : Query}
  {record : List (Reply ε)}

/-- Logs end the visit of the current range. -/
theorem Visiting.afterLogs (h : q.Visiting settings subject ranges visits errors record)
    (draw : Nat) (logs : List Log) :
    (q.afterAnswer settings subject draw (.ok logs)).Leads
      (OnItsWay settings subject ranges · (record ++ [q.reply settings subject (.ok logs)]))
      (Went settings.retry subject ranges ·
        (record ++ [q.reply settings subject (.ok logs)])) := by
  let visit : Visit ε := ⟨q.range settings, errors, logs⟩
  have hfew : ∀ v ∈ visits ++ [visit], v.errors.length < settings.retry.attempts := by
    intro v hmem
    rcases List.mem_append.mp hmem with hold | hnew
    · exact h.few v hold
    · rw [List.mem_singleton.mp hnew]
      exact h.more
  have hfound : q.found ++ subject.sightings logs
      = subject.sightings ((visits ++ [visit]).flatMap Visit.logs) := by
    rw [List.flatMap_append, Subject.sightings_append, ← h.found_eq, List.flatMap_singleton]
  have hrecord : record ++ [q.reply settings subject (.ok logs)]
      = (visits ++ [visit]).flatMap (Visit.replies subject) := by
    rw [h.record_eq, List.flatMap_append, List.flatMap_singleton, List.append_assoc]
    rfl
  simp only [Query.afterAnswer, hfound, hrecord]
  split
  next hlast =>
    refine Went.found (visits ++ [visit]) ?_ hfew
    rw [← h.ranges_eq, stretches_of_le hlast, List.map_append]
    rfl
  next hmore =>
    rw [BitVec.not_le] at hmore
    refine ⟨visits ++ [visit], [], ?_, hfew, rfl, ?_, .first settings.retry, rfl,
      (List.append_nil _).symm⟩
    · rw [← h.ranges_eq, stretches_of_lt hmore, List.map_append, List.append_assoc]
      rfl
    · exact Nat.lt_of_le_of_lt (Nat.zero_le _) h.more

/-- There is a current range, and perhaps more behind it. -/
theorem exists_stretches_eq (settings : WatchSettings) (q : Query) :
    ∃ rest, stretches settings q.first q.last = q.range settings :: rest := by
  by_cases hmore : q.stretchEnd settings < q.last
  · exact ⟨_, stretches_of_lt hmore⟩
  · exact ⟨_, stretches_of_le (BitVec.not_lt.mp hmore)⟩

/-- A failure leads to the next attempt at the same range, or it was the last one. -/
theorem Visiting.afterError (hbounds : settings.retry.minNonzeroWait ≤ settings.retry.maxWait)
    (h : q.Visiting settings subject ranges visits errors record) (draw : Nat) (e : ε) :
    (q.afterAnswer settings subject draw (.error e)).Leads
      (OnItsWay settings subject ranges · (record ++ [q.reply settings subject (.error e)]))
      (Went settings.retry subject ranges ·
        (record ++ [q.reply settings subject (.error e)])) := by
  have hrecord : record ++ [q.reply settings subject (.error e)]
      = visits.flatMap (Visit.replies subject)
        ++ subject.failures (q.range settings) (errors ++ [e]) := by
    rw [h.record_eq, List.append_assoc, Subject.failures, Subject.failures, List.map_append]
    rfl
  obtain ⟨rest, hrest⟩ := exists_stretches_eq settings q
  have hranges := h.ranges_eq
  rw [hrest] at hranges
  simp only [Query.afterAnswer, hrecord]
  cases hverdict : q.progress.afterFailure settings.retry draw with
  | giveUp =>
    have hlast := Retry.Progress.attempts_le_of_giveUp hverdict
    rw [h.attempt_eq] at hlast
    exact .failed visits _ rest errors e hranges h.few
      (Nat.le_antisymm (Nat.succ_le_of_lt h.more) hlast)
  | again wait next =>
    obtain ⟨hmore, hattempt, -⟩ := Retry.Progress.afterFailure_again hverdict
    rw [h.attempt_eq] at hmore hattempt
    refine ⟨visits, errors ++ [e], h.ranges_eq, h.few, ?_, ?_, .next hverdict, h.found_eq, rfl⟩
    · rw [List.length_append, List.length_singleton]
      exact hattempt
    · rw [List.length_append, List.length_singleton]
      exact hmore
  | breakDown wait? cause =>
    have hunfit := (h.bounds.of_breakDown hverdict).resolve_left (Nat.not_lt_of_le hbounds)
    exact .brokenDown visits _ rest errors e cause hranges h.few (Nat.succ_le_of_lt h.more) hunfit

/-- The record of a whole query. -/
theorem course_went (means : Means (StateM σ) ε)
    (hbounds : settings.retry.minNonzeroWait ≤ settings.retry.maxWait) (subject : Subject)
    {first last : BlockNumber} (hrange : first ≤ last) (world : σ) :
    Went settings.retry subject (stretches settings first last)
      (course means settings subject first last world).outcome
      (course means settings subject first last world).replies := by
  have hanswers : means.Answers fun _ _ => True := fun _ _ => trivial
  refine course_spec (OnItsWay settings subject (stretches settings first last))
    (Went settings.retry subject (stretches settings first last)) hanswers ?_ hrange ?_ world
  · rintro q record draw answer ⟨visits, errors, hvisiting⟩ -
    cases answer with
    | ok logs => exact hvisiting.afterLogs draw logs
    | error e => exact hvisiting.afterError hbounds draw e
  · refine ⟨[], [], rfl, fun _ hmem => (nomatch hmem), rfl, ?_, .first settings.retry, rfl, rfl⟩
    exact Nat.lt_of_lt_of_le Nat.one_pos (Nat.le_max_left _ _)

/-! ## What the record tells -/

end Query

/-- The answers for a range are those of its own requests. -/
theorem Subject.answersFor_append (s : Subject) (replies more : List (Reply ε)) (r : BlockRange) :
    s.answersFor (replies ++ more) r = s.answersFor replies r ++ s.answersFor more r := by
  unfold answersFor
  rw [List.filter_append, List.map_append]

theorem Subject.answersFor_failures (s : Subject) (r : BlockRange) (errors : List ε) :
    s.answersFor (s.failures r errors) r = errors.map .error := by
  unfold answersFor failures
  rw [List.filter_eq_self.mpr fun reply hmem => ?_, List.map_map]
  · rfl
  · obtain ⟨e, -, rfl⟩ := List.mem_map.mp hmem
    exact decide_eq_true rfl

theorem Subject.answersFor_visit (s : Subject) (v : Visit ε) :
    s.answersFor (v.replies s) v.range = v.errors.map .error ++ [.ok v.logs] := by
  unfold Visit.replies
  rw [s.answersFor_append, s.answersFor_failures]
  have hlogs : [(⟨s.filterFor v.range, .ok v.logs⟩ : Reply ε)].filter
      (·.filter = s.filterFor v.range) = [⟨s.filterFor v.range, .ok v.logs⟩] :=
    List.filter_cons_of_pos (decide_eq_true rfl)
  unfold answersFor
  rw [hlogs]
  rfl

/-- Visits of other ranges ask nothing about a range. -/
theorem Subject.answersFor_visits_of_notMem (s : Subject) {visits : List (Visit ε)}
    {r : BlockRange} (h : r ∉ visits.map Visit.range) :
    s.answersFor (visits.flatMap (Visit.replies s)) r = [] := by
  have hother : ∀ reply ∈ visits.flatMap (Visit.replies s), ¬ reply.filter = s.filterFor r := by
    intro reply hmem heq
    obtain ⟨v, hv, hreply⟩ := List.mem_flatMap.mp hmem
    have hfilter : reply.filter = s.filterFor v.range := by
      rcases List.mem_append.mp hreply with hfailure | hlogs
      · obtain ⟨e, -, rfl⟩ := List.mem_map.mp hfailure
        rfl
      · rw [List.mem_singleton.mp hlogs]
    rw [hfilter] at heq
    exact h (List.mem_map.mpr ⟨v, hv, Subject.filterFor_inj heq⟩)
  unfold answersFor
  rw [List.filter_eq_nil_iff.mpr fun reply hmem => by simpa using hother reply hmem]
  rfl

namespace Query

variable {settings : WatchSettings} {subject : Subject} {ranges : List BlockRange}
  {outcome : Outcome ε} {replies : List (Reply ε)} {options : Retry.Options} {attempts : Nat}

/-- Of a visit that is on record once, its answers are all that there are for its range. -/
theorem answersFor_visits {visits : List (Visit ε)} (hnodup : (visits.map Visit.range).Nodup)
    {v : Visit ε} (hmem : v ∈ visits) :
    subject.answersFor (visits.flatMap (Visit.replies subject)) v.range
      = v.errors.map .error ++ [.ok v.logs] := by
  obtain ⟨before, after, rfl⟩ := List.append_of_mem hmem
  rw [List.map_append, List.map_cons] at hnodup
  have hbefore : v.range ∉ before.map Visit.range := fun h =>
    List.disjoint_of_nodup_append hnodup h List.mem_cons_self
  have hafter : v.range ∉ after.map Visit.range :=
    (List.nodup_cons.mp (List.nodup_append.mp hnodup).2.1).1
  rw [List.flatMap_append, List.flatMap_cons, subject.answersFor_append,
    subject.answersFor_append, subject.answersFor_visits_of_notMem hbefore,
    subject.answersFor_visits_of_notMem hafter, subject.answersFor_visit, List.nil_append,
    List.append_nil]

/-- Of a range at which every request failed, the logs did not come. -/
theorem not_fetches_of_failures {visits : List (Visit ε)} {r : BlockRange}
    {rest : List BlockRange} (hnodup : (visits.map Visit.range ++ r :: rest).Nodup)
    (errors : List ε) :
    ¬ subject.Fetches attempts
      (visits.flatMap (Visit.replies subject) ++ subject.failures r errors) r := by
  rintro ⟨errors', logs, -, hanswers⟩
  have hother : r ∉ visits.map Visit.range := fun h =>
    List.disjoint_of_nodup_append hnodup h List.mem_cons_self
  rw [subject.answersFor_append, subject.answersFor_visits_of_notMem hother,
    subject.answersFor_failures, List.nil_append] at hanswers
  have hlogs : .ok logs ∈ errors.map (Except.error (α := List Log)) := by
    rw [hanswers]
    exact List.mem_append_right _ List.mem_cons_self
  obtain ⟨_, -, hcontra⟩ := List.mem_map.mp hlogs
  cases hcontra

/-- A query finds its events exactly if the requests for every range come to its logs in time. -/
theorem Went.found_iff (h : Went options subject ranges outcome replies)
    (hnodup : ranges.Nodup) :
    (∃ events, outcome = .found events)
      ↔ ∀ r ∈ ranges, subject.Fetches (max 1 options.maxAttempts) replies r := by
  cases h with
  | found visits hranges hfew =>
    subst hranges
    refine ⟨fun _ r hmem => ?_, fun _ => ⟨_, rfl⟩⟩
    obtain ⟨v, hv, rfl⟩ := List.mem_map.mp hmem
    exact ⟨v.errors, v.logs, hfew v hv, answersFor_visits hnodup hv⟩
  | failed visits r rest errors e hranges hfew hall =>
    subst hranges
    refine iff_of_false (fun ⟨_, hfound⟩ => nomatch hfound) fun hfetches => ?_
    exact not_fetches_of_failures hnodup _
      (hfetches r (List.mem_append_right _ List.mem_cons_self))
  | brokenDown visits r rest errors e cause hranges hfew hsome hunfit =>
    subst hranges
    refine iff_of_false (fun ⟨_, hfound⟩ => nomatch hfound) fun hfetches => ?_
    exact not_fetches_of_failures hnodup _
      (hfetches r (List.mem_append_right _ List.mem_cons_self))

/-- With waits that fit, a query finds its events or fails with an error. -/
theorem Went.settled (h : Went options subject ranges outcome replies) (hfit : options.Fit) :
    (∃ events, outcome = .found events) ∨ ∃ e, outcome = .failed e := by
  cases h with
  | found visits => exact .inl ⟨_, rfl⟩
  | failed visits r rest errors e => exact .inr ⟨e, rfl⟩
  | brokenDown visits r rest errors e cause hranges hfew hsome hunfit => exact absurd hfit hunfit

/-- No visit takes more requests than there are attempts. -/
theorem visits_length_le (subject : Subject) {visits : List (Visit ε)}
    (hfew : ∀ v ∈ visits, v.errors.length < attempts) :
    (visits.flatMap (Visit.replies subject)).length ≤ attempts * visits.length := by
  rw [List.length_flatMap, Nat.mul_comm,
    ← List.length_map (f := fun v => (v.replies subject).length), ← smul_eq_mul]
  refine List.sum_le_card_nsmul _ _ fun n hmem => ?_
  obtain ⟨v, hv, rfl⟩ := List.mem_map.mp hmem
  unfold Visit.replies Subject.failures
  rw [List.length_append, List.length_map, List.length_singleton]
  exact Nat.succ_le_of_lt (hfew v hv)

/-- Visits of some ranges and no more failures than attempts at the next. -/
theorem visits_failures_length_le {visits : List (Visit ε)} (r : BlockRange)
    (rest : List BlockRange) {errors : List ε} (hfew : ∀ v ∈ visits, v.errors.length < attempts)
    (hsome : errors.length ≤ attempts) :
    (visits.flatMap (Visit.replies subject) ++ subject.failures r errors).length
      ≤ attempts * (visits.map Visit.range ++ r :: rest).length := by
  have hvisits := visits_length_le subject hfew
  unfold Subject.failures
  rw [List.length_append, List.length_map, List.length_append, List.length_map, List.length_cons,
    Nat.mul_add, Nat.mul_succ]
  omega

theorem Went.length_le (h : Went options subject ranges outcome replies) :
    replies.length ≤ max 1 options.maxAttempts * ranges.length := by
  cases h with
  | found visits hranges hfew =>
    subst hranges
    rw [List.length_map]
    exact visits_length_le subject hfew
  | failed visits r rest errors e hranges hfew hall =>
    subst hranges
    refine visits_failures_length_le r rest hfew ?_
    rw [List.length_append, List.length_singleton, hall]
  | brokenDown visits r rest errors e cause hranges hfew hsome hunfit =>
    subst hranges
    refine visits_failures_length_le r rest hfew ?_
    rw [List.length_append, List.length_singleton]
    exact hsome

/-- A node with the small chain that answers every other request only. -/
def flaky : Means (StateM Nat) String where
  ask filter := modifyGet fun n =>
    (if n % 2 = 0 then .error "busy" else .ok (Watch.smallLedger.answer filter), n + 1)
  wait _ := pure ()
  draw := pure 0
  tell _ := pure ()
  shown := id

end Query

end SmartAccount
