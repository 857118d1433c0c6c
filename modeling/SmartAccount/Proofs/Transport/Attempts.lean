import SmartAccount.Proofs.Transport.Conservation
import SmartAccount.Transport.Layers
/-!
# What one call comes to

A call passes the retry layer, the metric layer and the timeout layer, in this order. So every
attempt has a clock of its own (`Trip.Timed`) and is counted on its own (`Report.tally_counted`),
and the next attempt is made only after an error that the retry layer sends again for (`Goes`).

Which errors these are, and how long the pauses are, is left open: all that is assumed is that an
error of the client itself is none of them. Then an attempt that was given up is the last
(`Goes.givenUp`). `call_attempts` puts this together.
-/

namespace SmartAccount

namespace Transport

/-! ## One attempt -/

/-- The answer is there before the client gives up. -/
def Delivery.InTime (timeout : Duration) (d : Delivery) : Prop :=
  ∃ delay outcome, d = .after delay outcome ∧ delay ≤ timeout

/-- The client finds an end of the attempt when its time is over. -/
theorem Delivery.poll?_span (timeout : Duration) (d : Delivery) :
    d.poll? timeout (d.span timeout) = some (d.within timeout) := by
  cases d with
  | after delay outcome =>
    by_cases h : delay ≤ timeout
    · simp [poll?, answered?, span, within, h]
    · simp [poll?, answered?, span, within, h, Nat.min_eq_right (Nat.le_of_not_le h)]
  | never => simp [poll?, answered?, span, within]

/-- It finds none before. -/
theorem Delivery.poll?_of_lt {timeout elapsed : Duration} {d : Delivery}
    (h : elapsed < d.span timeout) : d.poll? timeout elapsed = none := by
  cases d with
  | after delay outcome =>
    obtain ⟨hdelay, htimeout⟩ := Nat.lt_min.mp h
    simp [poll?, answered?, hdelay, htimeout]
  | never =>
    have htimeout : elapsed < timeout := h
    simp [poll?, answered?, htimeout]

/-- An attempt is timed from its own start: it ends with the answer if that is there in time, and
else when it is given up. So it ends at the first look that finds an end. -/
structure Trip.Timed (timeout : Duration) (d : Delivery) (t : Trip) : Prop where
  answered : ∀ delay outcome, d = .after delay outcome → delay ≤ timeout →
    t.ended = t.started + delay ∧ t.outcome = outcome
  givenUp : ¬ d.InTime timeout →
    t.ended = t.started + timeout ∧ t.outcome = .error (.usage timeoutText)
  found : d.poll? timeout (t.ended - t.started) = some t.outcome
  waited : ∀ elapsed, elapsed < t.ended - t.started → d.poll? timeout elapsed = none

theorem Delivery.trip_timed (timeout now : Duration) (d : Delivery) :
    (d.trip timeout now).Timed timeout d := by
  have hspan : (d.trip timeout now).ended - (d.trip timeout now).started = d.span timeout :=
    Nat.add_sub_cancel_left ..
  refine ⟨?_, ?_, ?_, ?_⟩
  · rintro delay outcome rfl hle
    refine ⟨?_, if_pos hle⟩
    show now + min delay timeout = now + delay
    rw [Nat.min_eq_left hle]
  · intro hlate
    cases d with
    | never => exact ⟨rfl, rfl⟩
    | after delay outcome =>
      have hlt : ¬ delay ≤ timeout := fun hle => hlate ⟨delay, outcome, rfl, hle⟩
      refine ⟨?_, if_neg hlt⟩
      show now + min delay timeout = now + timeout
      rw [Nat.min_eq_right (Nat.le_of_not_le hlt)]
  · rw [hspan]
    exact d.poll?_span timeout
  · intro elapsed hlt
    rw [hspan] at hlt
    exact poll?_of_lt hlt

/-! ## The attempts of a call -/

variable {retryable : RpcError → Bool} {pause : RpcError → Duration} {timeout : Duration}
  {server : Nat → Delivery}

/-- An attempt ends a call with so many retries left: it settles the call, or there is none left
although its error is one to be sent again for. -/
def Ends (retryable : RpcError → Bool) (retries : Nat) (outcome result : Delivered) : Prop :=
  verdict retryable outcome = .settled result
    ∨ ∃ e, verdict retryable outcome = .again e ∧ retries = 0 ∧ result = .error (exhausted e)

theorem verdict_again {outcome : Delivered} {e : RpcError}
    (h : verdict retryable outcome = .again e) :
    outcome.error? = some e ∧ retryable e = true := by
  unfold verdict at h
  split at h
  · cases h
  · next e' herror =>
    split at h
    · next hretryable =>
      cases h
      exact ⟨herror, hretryable⟩
    · cases h

/-- How a call goes from its attempt number `k` on, which starts at `now`, with so many retries
left: its attempts, when it ends and what it comes to. -/
structure Goes (retryable : RpcError → Bool) (pause : RpcError → Duration) (timeout : Duration)
    (server : Nat → Delivery) (k retries : Nat) (now : Duration) (trips : List Trip)
    (ended : Duration) (result : Delivered) : Prop where
  length_le : trips.length ≤ retries + 1
  starts : ∃ first, trips.head? = some first ∧ first.started = now
  timed : ∀ i (h : i < trips.length), trips[i].Timed timeout (server (k + i))
  /-- Between two attempts there is an error to be sent again for, and a pause. -/
  resent : ∀ i (h : i + 1 < trips.length), ∃ e, trips[i].outcome.error? = some e
    ∧ retryable e = true ∧ trips[i + 1].started = trips[i].ended + pause e
  ends : ∃ last, trips.getLast? = some last ∧ ended = last.ended
    ∧ Ends retryable (retries + 1 - trips.length) last.outcome result

/-- A call with a single attempt. -/
theorem Goes.single {k retries : Nat} {now : Duration} {result : Delivered}
    (h : Ends retryable retries ((server k).within timeout) result) :
    Goes retryable pause timeout server k retries now [(server k).trip timeout now]
      ((server k).trip timeout now).ended result := by
  refine ⟨Nat.le_add_left .., ⟨_, rfl, rfl⟩, fun i hi => ?_, fun i hi => ?_, ⟨_, rfl, rfl, h⟩⟩
  · obtain rfl : i = 0 := Nat.lt_one_iff.mp hi
    exact (server k).trip_timed timeout now
  · exact absurd hi (Nat.not_lt_of_le (Nat.le_add_left ..))

/-- One more attempt in front, which ends with an error to be sent again for. -/
theorem Goes.cons {k retries : Nat} {now ended : Duration} {trips : List Trip}
    {result : Delivered} {e : RpcError}
    (hverdict : verdict retryable ((server k).within timeout) = .again e)
    (hrest : Goes retryable pause timeout server (k + 1) retries
      (((server k).trip timeout now).ended + pause e) trips ended result) :
    Goes retryable pause timeout server k (retries + 1) now
      ((server k).trip timeout now :: trips) ended result := by
  obtain ⟨hlength, ⟨first, hfirst, hstarted⟩, htimed, hresent, last, hlast, hended, hends⟩ := hrest
  obtain ⟨herror, hretryable⟩ := verdict_again hverdict
  refine ⟨Nat.succ_le_succ hlength, ⟨_, rfl, rfl⟩, fun i hi => ?_, fun i hi => ?_, ?_⟩
  · cases i with
    | zero => exact (server k).trip_timed timeout now
    | succ i =>
      have htrip := htimed i (Nat.lt_of_succ_lt_succ hi)
      rwa [Nat.add_assoc, Nat.add_comm 1 i] at htrip
  · cases i with
    | zero =>
      refine ⟨e, herror, hretryable, ?_⟩
      rw [List.head?_eq_getElem?] at hfirst
      obtain ⟨hpos, hhead⟩ := List.getElem?_eq_some_iff.mp hfirst
      rw [List.getElem_cons_succ, hhead, hstarted]
      rfl
    | succ i => exact hresent i (Nat.lt_of_succ_lt_succ hi)
  · refine ⟨last, ?_, hended, ?_⟩
    · rw [List.getLast?_cons, hlast]
      rfl
    · rwa [List.length_cons, Nat.add_sub_add_right]

/-! ## A call through the layers -/

/-- The client after one more attempt. -/
def Client.made (c : Client) (method : String) (timeout : Duration) (d : Delivery) : Client where
  now := (d.trip timeout c.now).ended
  tally := (c.tally.start method).finish method (d.within timeout)
  trips := c.trips ++ [d.trip timeout c.now]

/-- The means of a call without a client: its attempts are known in advance. -/
def known (retryable : RpcError → Bool) (timeout : Duration) (server : Nat → Delivery) : Means Id :=
  ⟨fun k => pure ((server k).within timeout), fun _ => pure (), retryable⟩

/-- What is left of a call after its attempt number `k`. -/
def Verdict.rest {m : Type → Type} [Monad m] (means : Means m) (k : Nat) (outcome : Delivered) :
    (retries : Nat) → Verdict → m Report
  | _, .settled result => return ⟨result, [outcome]⟩
  | 0, .again e => return ⟨.error (exhausted e), [outcome]⟩
  | retries + 1, .again e => do
    means.pause e
    let rest ← callFrom means (k + 1) retries
    return { rest with attempts := outcome :: rest.attempts }

/-- A call is one attempt and what it leads to. -/
theorem callFrom_eq {m : Type → Type} [Monad m] (means : Means m) (k retries : Nat) :
    callFrom means k retries = (do
      let outcome ← means.attempt k
      (verdict means.retryable outcome).rest means k outcome retries) := by
  cases retries with
  | zero =>
    rw [callFrom]
    congr 1
    funext outcome
    cases verdict means.retryable outcome <;> rfl
  | succ retries =>
    rw [callFrom]
    congr 1
    funext outcome
    cases verdict means.retryable outcome <;> rfl

/-- An attempt through the layers, and what it leads to. -/
theorem callFrom_layered (method : String) (k retries : Nat) (c : Client) :
    (callFrom (layered retryable pause timeout method server) k retries).run c
      = ((verdict retryable ((server k).within timeout)).rest
          (layered retryable pause timeout method server) k ((server k).within timeout) retries).run
        (c.made method timeout (server k)) := by
  rw [callFrom_eq]
  rfl

theorem callFrom_known (k retries : Nat) :
    callFrom (known retryable timeout server) k retries
      = (verdict retryable ((server k).within timeout)).rest (known retryable timeout server) k
          ((server k).within timeout) retries := by
  rw [callFrom_eq]
  rfl

/-- The last attempt of a call. -/
theorem callFrom_of_ends {k retries : Nat} {result : Delivered}
    (h : Ends retryable retries ((server k).within timeout) result) (method : String)
    (c : Client) :
    (callFrom (layered retryable pause timeout method server) k retries).run c
        = (⟨result, [(server k).within timeout]⟩, c.made method timeout (server k))
      ∧ callFrom (known retryable timeout server) k retries
        = ⟨result, [(server k).within timeout]⟩ := by
  rw [callFrom_layered, callFrom_known]
  rcases h with hsettled | ⟨e, hagain, rfl, rfl⟩
  · rw [hsettled]
    cases retries <;> exact ⟨rfl, rfl⟩
  · rw [hagain]
    exact ⟨rfl, rfl⟩

/-- An attempt that is not the last. -/
theorem callFrom_of_again {k retries : Nat} {e : RpcError} {c after : Client} {rest : Report}
    {method : String} (h : verdict retryable ((server k).within timeout) = .again e)
    (hrest : (callFrom (layered retryable pause timeout method server) (k + 1) retries).run
      { c.made method timeout (server k) with
        now := ((server k).trip timeout c.now).ended + pause e } = (rest, after))
    (hknown : callFrom (known retryable timeout server) (k + 1) retries = rest) :
    (callFrom (layered retryable pause timeout method server) k (retries + 1)).run c
        = ({ rest with attempts := (server k).within timeout :: rest.attempts }, after)
      ∧ callFrom (known retryable timeout server) k (retries + 1)
        = { rest with attempts := (server k).within timeout :: rest.attempts } := by
  rw [callFrom_layered, callFrom_known, h]
  refine ⟨?_, ?_⟩
  · show ((fun rest : Report × Client =>
        ({ rest.1 with attempts := (server k).within timeout :: rest.1.attempts }, rest.2))
      ((callFrom (layered retryable pause timeout method server) (k + 1) retries).run
        { c.made method timeout (server k) with
          now := ((server k).trip timeout c.now).ended + pause e })) = _
    rw [hrest]
  · rw [← hknown]
    rfl

/-- A call through the layers from its attempt number `k` on. Without clock and counts it is the
same call, and it is counted as its attempts are. -/
theorem callFrom_goes (retryable : RpcError → Bool) (pause : RpcError → Duration)
    (timeout : Duration) (server : Nat → Delivery) (method : String) (k retries : Nat)
    (c : Client) :
    ∃ report after trips,
      (callFrom (layered retryable pause timeout method server) k retries).run c = (report, after)
      ∧ callFrom (known retryable timeout server) k retries = report
      ∧ Goes retryable pause timeout server k retries c.now trips after.now report.result
      ∧ after.trips = c.trips ++ trips
      ∧ report.attempts = trips.map Trip.outcome
      ∧ after.tally = report.tally method c.tally := by
  induction retries generalizing k c with
  | zero =>
    obtain ⟨result, hends⟩ : ∃ result, Ends retryable 0 ((server k).within timeout) result := by
      cases hverdict : verdict retryable ((server k).within timeout) with
      | settled result => exact ⟨result, .inl hverdict⟩
      | again e => exact ⟨_, .inr ⟨e, hverdict, rfl, rfl⟩⟩
    obtain ⟨hrun, hknown⟩ := callFrom_of_ends hends method c
    exact ⟨_, _, _, hrun, hknown, Goes.single hends, rfl, rfl, rfl⟩
  | succ retries ih =>
    cases hverdict : verdict retryable ((server k).within timeout) with
    | settled result =>
      obtain ⟨hrun, hknown⟩ := callFrom_of_ends (.inl hverdict) method c
      exact ⟨_, _, _, hrun, hknown, Goes.single (.inl hverdict), rfl, rfl, rfl⟩
    | again e =>
      obtain ⟨rest, after, trips, hrest, hknown, hgoes, htrips, hattempts, htally⟩ :=
        ih (k + 1) { c.made method timeout (server k) with
          now := ((server k).trip timeout c.now).ended + pause e }
      obtain ⟨hrun, hknown⟩ := callFrom_of_again hverdict hrest hknown
      refine ⟨_, _, _, hrun, hknown, hgoes.cons hverdict, ?_, ?_, htally⟩
      · rw [htrips, Client.made, List.append_assoc]
        rfl
      · rw [hattempts]
        rfl

/-! ## The counts -/

/-- The attempts of a call add their shares to the counts. -/
theorem Report.count_tally (r : Report) (own : String) (t : Metrics.Tally)
    (metric : Metrics.Metric) (method : String) :
    (r.tally own t).count metric method
      = t.count metric method
        + (r.attempts.map fun outcome =>
            Metrics.Session.share ⟨own, .ended outcome⟩ metric method).sum := by
  unfold tally
  induction r.attempts generalizing t with
  | nil => simp
  | cons outcome rest ih =>
    have hstart := t.count_start own metric method
    have hfinish := (t.start own).count_finish own outcome metric method
    rw [List.foldl_cons, ih, List.map_cons, List.sum_cons]
    simp only [Metrics.Tally.after] at hstart hfinish
    omega

/-- A sum of ones is a count. -/
theorem sum_map_ite {α : Type} (p : α → Prop) [DecidablePred p] (xs : List α) :
    (xs.map fun x => if p x then (1 : Int) else 0).sum = xs.countP p := by
  induction xs with
  | nil => rfl
  | cons x rest ih =>
    rw [List.map_cons, List.sum_cons, ih, List.countP_cons]
    by_cases h : p x <;> simp [h, Int.add_comm]

/-- How the counts change by attempts with these outcomes: by one for each that was made, and by one
for each under either label of its own outcome. -/
structure Counted (method : String) (outcomes : List Delivered) (before after : Metrics.Tally) :
    Prop where
  sent : after.count .numRequests method = before.count .numRequests method + outcomes.length
  statuses : ∃ statuses : List (Metrics.HttpClass × Metrics.RpcClass),
    List.Forall₂ (fun outcome status => Metrics.Reported outcome status.1.name status.2.name)
        outcomes statuses
      ∧ (∀ http, after.count (.httpStatus http) method
        = before.count (.httpStatus http) method + statuses.countP (·.1 = http))
      ∧ ∀ rpc, after.count (.rpcStatus rpc) method
        = before.count (.rpcStatus rpc) method + statuses.countP (·.2 = rpc)
  others : ∀ metric other, other ≠ method → after.count metric other = before.count metric other

theorem Report.tally_counted (r : Report) (method : String) (t : Metrics.Tally) :
    Counted method r.attempts t (r.tally method t) := by
  refine ⟨?_, ⟨r.attempts.map Metrics.classes, ?_, fun http => ?_, fun rpc => ?_⟩,
    fun metric other hne => ?_⟩
  · rw [r.count_tally]
    simp [Metrics.Session.share, Metrics.Stage.share]
  · rw [List.forall₂_map_right_iff, List.forall₂_same]
    exact fun outcome _ => Metrics.reported_classes outcome
  · have hsum := sum_map_ite (fun status : Metrics.HttpClass × Metrics.RpcClass => status.1 = http)
      (r.attempts.map Metrics.classes)
    rw [r.count_tally, ← hsum, List.map_map]
    simp [Metrics.Session.share, Metrics.Stage.share, Function.comp_def, eq_comm]
  · have hsum := sum_map_ite (fun status : Metrics.HttpClass × Metrics.RpcClass => status.2 = rpc)
      (r.attempts.map Metrics.classes)
    rw [r.count_tally, ← hsum, List.map_map]
    simp [Metrics.Session.share, Metrics.Stage.share, Function.comp_def, eq_comm]
  · rw [r.count_tally]
    simp [Metrics.Session.share, hne.symm]

/-! ## The result -/

/-- An attempt that is given up is the last, if an error of the client itself is never one to be
sent again for. -/
theorem Goes.givenUp {k retries : Nat} {now ended : Duration} {trips : List Trip}
    {result : Delivered} (hlocal : ∀ text, retryable (.usage text) = false)
    (h : Goes retryable pause timeout server k retries now trips ended result) {i : Nat}
    (hi : i < trips.length) (hlate : ¬ (server (k + i)).InTime timeout) :
    i + 1 = trips.length ∧ ended = trips[i].started + timeout
      ∧ result = .error (.usage timeoutText) := by
  obtain ⟨hended, houtcome⟩ := (h.timed i hi).givenUp hlate
  have hlast : i + 1 = trips.length := by
    refine Nat.le_antisymm hi (Nat.le_of_not_lt fun hmore => ?_)
    obtain ⟨e, herror, hretryable, -⟩ := h.resent i hmore
    rw [houtcome] at herror
    obtain rfl := Option.some.inj herror
    rw [hlocal] at hretryable
    cases hretryable
  obtain ⟨last, hgetLast, rfl, hends⟩ := h.ends
  have hi_last : trips[i] = last := by
    rw [List.getLast?_eq_getElem?, ← hlast, Nat.add_sub_cancel] at hgetLast
    exact (List.getElem?_eq_some_iff.mp hgetLast).2
  have hsettled : verdict retryable last.outcome = .settled (.error (.usage timeoutText)) := by
    rw [← hi_last, houtcome]
    exact if_neg (by rw [hlocal]; exact Bool.false_ne_true)
  refine ⟨hlast, hi_last ▸ hended, ?_⟩
  rcases hends with hresult | ⟨e, hagain, -⟩
  · rw [hsettled] at hresult
    exact (Verdict.settled.inj hresult).symm
  · rw [hsettled] at hagain
    cases hagain

/-- **What one call comes to.** Let the server do with each attempt what it likes, let the retry
layer pause as it likes and send again after the errors that it likes, except those of the client
itself.

There are one to eleven attempts, and the next one is made only after an error to be sent again for.
Each is timed from its own start. The last one settles the call, unless there are eleven. An attempt
that is given up is the last, and its error is what the caller gets. Every attempt is counted as a
request of its own, under the labels of its own outcome. It is the call that is made of these
deliveries without clock and counts. -/
theorem call_attempts (hlocal : ∀ text, retryable (.usage text) = false)
    (pause : RpcError → Duration) (timeout : Duration) (server : Nat → Delivery)
    (method : String) (c : Client) :
    ∃ report after trips,
      (callWith (layered retryable pause timeout method server)).run c = (report, after)
      ∧ after.trips = c.trips ++ trips
      ∧ 1 ≤ trips.length ∧ trips.length ≤ 11
      ∧ (∃ first, trips.head? = some first ∧ first.started = c.now)
      ∧ (∀ i (h : i + 1 < trips.length), ∃ e, trips[i].outcome.error? = some e
        ∧ retryable e = true ∧ trips[i + 1].started = trips[i].ended + pause e)
      ∧ (∀ i (h : i < trips.length), trips[i].Timed timeout (server i))
      ∧ (∃ last, trips.getLast? = some last ∧ after.now = last.ended
        ∧ Ends retryable (11 - trips.length) last.outcome report.result)
      ∧ (∀ i (h : i < trips.length), ¬ (server i).InTime timeout →
        i + 1 = trips.length ∧ after.now = trips[i].started + timeout
          ∧ report.result = .error (.usage timeoutText)
          ∧ Metrics.Reported trips[i].outcome "four_hundreds" "invalid_request")
      ∧ Counted method (trips.map Trip.outcome) c.tally after.tally
      ∧ report = call timeout server retryable ∧ after.tally = report.tally method c.tally := by
  obtain ⟨report, after, trips, hrun, hknown, hgoes, htrips, hattempts, htally⟩ :=
    callFrom_goes retryable pause timeout server method 0 maxRetries c
  have htimed (i : Nat) (h : i < trips.length) : trips[i].Timed timeout (server i) := by
    have htrip := hgoes.timed i h
    rwa [Nat.zero_add] at htrip
  refine ⟨report, after, trips, hrun, htrips, ?_, hgoes.length_le, hgoes.starts, hgoes.resent,
    htimed, hgoes.ends, ?_, ?_, hknown.symm, htally⟩
  · obtain ⟨first, hfirst, -⟩ := hgoes.starts
    exact List.length_pos_of_mem (List.mem_of_head? hfirst)
  · intro i hi hlate
    obtain ⟨hlast, hended, hresult⟩ := hgoes.givenUp hlocal hi (by rwa [Nat.zero_add])
    refine ⟨hlast, hended, hresult, ?_⟩
    rw [((htimed i hi).givenUp hlate).2]
    exact .usage
  · rw [← hattempts, htally]
    exact report.tally_counted method c.tally

/-- A server that asks for fewer requests, and then does not answer any more. -/
def busyThenSilent : Nat → Delivery
  | 0 => .after (.ofMillis 20) (.error (.http 429 ""))
  | _ => .never

/-- The second attempt of two is given up, one second after it started. -/
theorem call_attempts_busyThenSilent :
    (∀ text, isRetryable (.usage text) = false) ∧ ¬ (busyThenSilent 1).InTime (.ofSeconds 1)
      ∧ ∃ (report : Report) (after : Client) (trips : List Trip),
        (callWith (layered isRetryable pauseAfter (.ofSeconds 1) "eth_call" busyThenSilent)).run {}
            = (report, after)
          ∧ trips.length = 2 ∧ report.result = .error (.usage timeoutText)
          ∧ after.now = .ofMillis 1520
          ∧ Counted "eth_call" (trips.map Trip.outcome) [] after.tally := by
  have hlocal : ∀ text, isRetryable (.usage text) = false := fun _ => rfl
  have hlate : ¬ (busyThenSilent 1).InTime (.ofSeconds 1) := by
    rintro ⟨delay, outcome, hdelivery, -⟩
    cases hdelivery
  obtain ⟨report, after, trips, hrun, htrips, -, -, -, -, -, -, hgivenUp, hcounted, -⟩ :=
    call_attempts hlocal pauseAfter (.ofSeconds 1) busyThenSilent "eth_call" {}
  have hlength : trips.length = 2 := by
    have hsecond := congrArg (·.2.trips.length) hrun
    dsimp only at hsecond
    rw [htrips] at hsecond
    exact hsecond.symm
  have hnow : after.now = .ofMillis 1520 := (congrArg (·.2.now) hrun).symm
  obtain ⟨-, -, hresult, -⟩ := hgivenUp 1 (by rw [hlength]; decide) hlate
  exact ⟨hlocal, hlate, report, after, trips, hrun, hlength, hresult, hnow, hcounted⟩

end Transport

end SmartAccount
