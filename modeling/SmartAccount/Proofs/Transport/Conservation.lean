import Mathlib.Algebra.BigOperators.Group.Finset.Piecewise
import Mathlib.Algebra.BigOperators.Group.List.Basic
import Mathlib.Algebra.Ring.Int.Defs
import Mathlib.Data.Fintype.Basic
import SmartAccount.Proofs.Transport.Statuses
import SmartAccount.Transport.Sessions
import SmartAccount.Transport.Stack
/-!
# The metrics of all requests together

Each request leaves its share in the counts, and what the share is depends on the stage of the
request alone (`Stage.share`): one for having been sent, one for being open, and once it has ended
one for its status in each of the two classifications. The counts are the sums of the shares of all
requests, at every point of every interleaving: that is the invariant which every action keeps
(`Layer.step?_adds`, `Layer.adds_of_run`). What can be said about the counts is then a fact about
the share of a single request.

A request that was dropped keeps the share that it had in flight.
-/

namespace SmartAccount.Metrics

/-! ## The share of a request -/

/-- What a request adds to a count of its method. -/
def Stage.share : Stage → Metric → Int
  | _, .numRequests => 1
  | .ended _, .openRequests => 0
  | _, .openRequests => 1
  | .ended _, .requestLatency => 1
  | .ended outcome, .httpStatus status => if status = (classes outcome).1 then 1 else 0
  | .ended outcome, .rpcStatus status => if status = (classes outcome).2 then 1 else 0
  | _, _ => 0

/-- What a request adds to a count. -/
def Session.share (s : Session) (metric : Metric) (method : String) : Int :=
  if s.method = method then s.stage.share metric else 0

theorem Tally.count_start (t : Tally) (own : String) (metric : Metric) (method : String) :
    (t.after (.started own)).count metric method
      = t.count metric method + Session.share ⟨own, .inFlight⟩ metric method := by
  simp only [Tally.after, Tally.start, Tally.count_add, Session.share, Prod.mk.injEq]
  by_cases h : method = own
  · cases metric <;> simp [h, Stage.share]
  · simp [h, Ne.symm h]

/-- The end of a request turns the share of one in flight into that of one that has ended. -/
theorem Tally.count_finish (t : Tally) (own : String) (outcome : Delivered) (metric : Metric)
    (method : String) :
    (t.after (.finished own outcome)).count metric method
        + Session.share ⟨own, .inFlight⟩ metric method
      = t.count metric method + Session.share ⟨own, .ended outcome⟩ metric method := by
  simp only [Tally.after, Tally.finish, Tally.count_add, Session.share, Prod.mk.injEq]
  by_cases h : method = own
  · cases metric <;> simp [h, Stage.share]
  · simp [h, Ne.symm h]

namespace Layer

/-! ## What one action can do -/

theorem inFlight?_eq_some {l : Layer} {number : Nat} {method : String} :
    l.inFlight? number = some method ↔ l.sessions[number]? = some ⟨method, .inFlight⟩ := by
  unfold inFlight?
  split
  next own hat => simp [hat]
  next hat => exact ⟨nofun, fun h => absurd h (hat method)⟩

/-- A request starts, or one that is in flight comes to its end or is dropped. -/
theorem step?_cases {l next : Layer} {action : Action} (h : l.step? action = some next) :
    (∃ method, action = .start method
      ∧ next = ⟨l.tally.after (.started method), l.sessions ++ [⟨method, .inFlight⟩]⟩)
    ∨ (∃ number outcome method, action = .finish number outcome
      ∧ l.sessions[number]? = some ⟨method, .inFlight⟩
      ∧ next = l.settle number method (.ended outcome) (.finished method outcome))
    ∨ (∃ number method, action = .drop number
      ∧ l.sessions[number]? = some ⟨method, .inFlight⟩
      ∧ next = l.settle number method .dropped (.dropped method)) := by
  cases action with
  | start method => exact .inl ⟨method, rfl, (Option.some.inj h).symm⟩
  | finish number outcome =>
    obtain ⟨method, hmethod, hnext⟩ := Option.map_eq_some_iff.mp h
    exact .inr (.inl ⟨number, outcome, method, rfl, inFlight?_eq_some.mp hmethod, hnext.symm⟩)
  | drop number =>
    obtain ⟨method, hmethod, hnext⟩ := Option.map_eq_some_iff.mp h
    exact .inr (.inr ⟨number, method, rfl, inFlight?_eq_some.mp hmethod, hnext.symm⟩)

/-- What every action keeps, every course of actions keeps. -/
theorem run?_keeps {P : Layer → Prop}
    (hstep : ∀ {l next : Layer} {action : Action}, l.step? action = some next → P l → P next)
    {l next : Layer} {actions : List Action} (h : l.run? actions = some next) (hl : P l) :
    P next := by
  induction actions generalizing l with
  | nil =>
    obtain rfl : l = next := Option.some.inj h
    exact hl
  | cons action rest ih =>
    obtain ⟨between, hbetween, hrest⟩ := Option.bind_eq_some_iff.mp h
    exact ih hrest (hstep hbetween hl)

/-! ## The counts are the sums of the shares -/

/-- The shares of all requests in a count. -/
def total (l : Layer) (metric : Metric) (method : String) : Int :=
  (l.sessions.map (·.share metric method)).sum

/-- The counts are what the requests add up to. -/
def Adds (l : Layer) : Prop :=
  ∀ metric method, l.tally.count metric method = l.total metric method

end Layer

/-- One element gives way to another in a sum. -/
theorem sum_map_set {α : Type} (f : α → Int) {xs : List α} {n : Nat} {old : α}
    (h : xs[n]? = some old) (new : α) :
    ((xs.set n new).map f).sum + f old = (xs.map f).sum + f new := by
  obtain ⟨hlt, rfl⟩ := List.getElem?_eq_some_iff.mp h
  have hlt' : n < (xs.map f).length := by rwa [List.length_map]
  rw [List.map_set, List.sum_set', dif_pos hlt', List.getElem_map]
  omega

namespace Layer

theorem step?_adds {l next : Layer} {action : Action} (h : l.step? action = some next)
    (hl : l.Adds) : next.Adds := by
  intro metric method
  have hcount := hl metric method
  obtain ⟨own, -, rfl⟩ | ⟨number, outcome, own, -, hat, rfl⟩ | ⟨number, own, -, hat, rfl⟩ :=
    step?_cases h
  · show (l.tally.after (.started own)).count metric method = _
    rw [Tally.count_start, hcount]
    simp [total]
  · have hset := sum_map_set (·.share metric method) hat ⟨own, .ended outcome⟩
    have hfinish := Tally.count_finish l.tally own outcome metric method
    simp only [total, settle] at hcount ⊢
    omega
  · have hset := sum_map_set (·.share metric method) hat ⟨own, .dropped⟩
    -- the counts stay, and so does the share of the request
    have hshare : Session.share ⟨own, .dropped⟩ metric method
        = Session.share ⟨own, .inFlight⟩ metric method := by
      cases metric <;> rfl
    simp only [total, settle, Tally.after] at hcount ⊢
    omega

theorem adds_of_run {l : Layer} {actions : List Action} (h : run? {} actions = some l) : l.Adds :=
  run?_keeps step?_adds h fun _ _ => rfl

end Layer

/-! ## What the counts of one method have to do with each other -/

instance : Fintype HttpClass where
  elems := {.success, .clientError, .serverError}
  complete status := by cases status <;> decide

instance : Fintype RpcClass where
  elems := {.success, .parseError, .invalidRequest, .methodNotFound, .invalidParams, .internalError,
    .serverError, .other}
  complete status := by cases status <;> decide

namespace Session

/-- A request that was sent is open, or it has one status. -/
theorem share_numRequests_http (s : Session) (method : String) :
    s.share .numRequests method
      = s.share .openRequests method + ∑ status, s.share (.httpStatus status) method := by
  obtain ⟨own, stage⟩ := s
  cases stage <;> by_cases h : own = method <;> simp [share, Stage.share, h]

theorem share_numRequests_rpc (s : Session) (method : String) :
    s.share .numRequests method
      = s.share .openRequests method + ∑ status, s.share (.rpcStatus status) method := by
  obtain ⟨own, stage⟩ := s
  cases stage <;> by_cases h : own = method <;> simp [share, Stage.share, h]

/-- A request is open that is in flight or was dropped. -/
theorem share_openRequests (s : Session) (method : String) :
    s.share .openRequests method
      = ((if s.method = method && s.stage.isInFlight then 1 else 0 : Nat) : Int)
        + (if s.method = method && s.stage.isDropped then 1 else 0 : Nat) := by
  obtain ⟨own, stage⟩ := s
  cases stage <;> by_cases h : own = method <;>
    simp [share, Stage.share, Stage.isInFlight, Stage.isDropped, h]

end Session

namespace Layer

/-- What holds of the shares of each request holds of the sums. -/
theorem total_eq_add_sum {ι : Type} [Fintype ι] {method : String} {sent still : Metric}
    {ended : ι → Metric}
    (hshare : ∀ s : Session, s.share sent method
      = s.share still method + ∑ i, s.share (ended i) method) (l : Layer) :
    l.total sent method = l.total still method + ∑ i, l.total (ended i) method := by
  unfold total
  induction l.sessions with
  | nil => simp
  | cons s rest ih =>
    simp only [List.map_cons, List.sum_cons, Finset.sum_add_distrib, ih, hshare s]
    omega

theorem total_openRequests (l : Layer) (method : String) :
    l.total .openRequests method = l.inFlight method + l.dropped method := by
  unfold total inFlight dropped
  induction l.sessions with
  | nil => rfl
  | cons s rest ih =>
    simp only [List.map_cons, List.sum_cons, ih, s.share_openRequests, List.countP_cons]
    omega

/-! ## The attempts of a call -/

/-- The attempts of a call: each starts when the one before has ended. The first has a number. -/
def attempts (method : String) : Nat → List Delivered → List Action
  | _, [] => []
  | number, outcome :: rest =>
    .start method :: .finish number outcome :: attempts method (number + 1) rest

/-- A call counts as its attempts do, whatever else is in flight. -/
theorem run?_attempts (l : Layer) (method : String) (outcomes : List Delivered) :
    l.run? (attempts method l.sessions.length outcomes)
      = some ⟨outcomes.foldl (fun t outcome => (t.start method).finish method outcome) l.tally,
          l.sessions ++ outcomes.map fun outcome => ⟨method, .ended outcome⟩⟩ := by
  induction outcomes generalizing l with
  | nil => simp [attempts, run?]
  | cons outcome rest ih =>
    -- the attempt is the last request in the layer, where its end finds it
    have hend : Layer.step? ⟨l.tally.after (.started method), l.sessions ++ [⟨method, .inFlight⟩]⟩
        (.finish l.sessions.length outcome)
        = some ⟨(l.tally.start method).finish method outcome,
            l.sessions ++ [⟨method, .ended outcome⟩]⟩ := by
      simp [step?, inFlight?, settle, Tally.after]
    have hrest := ih ⟨(l.tally.start method).finish method outcome,
      l.sessions ++ [⟨method, .ended outcome⟩]⟩
    rw [List.length_append, List.length_singleton] at hrest
    show Layer.step? ⟨l.tally.after (.started method), l.sessions ++ [⟨method, .inFlight⟩]⟩
      (.finish l.sessions.length outcome) >>= (fun next => next.run? _) = _
    rw [hend, Option.bind_eq_bind, Option.bind_some, hrest]
    simp

/-! ## What ends, and what was dropped -/

/-- The end of a request counts once in each classification, under the label of its own outcome, and
leaves the counts of other methods alone. -/
theorem finish_counts {l next : Layer} {number : Nat} {outcome : Delivered}
    (h : l.step? (.finish number outcome) = some next) :
    ∃ own http rpc, l.inFlight? number = some own ∧ Reported outcome http.name rpc.name
      ∧ (∀ status, next.tally.count (.httpStatus status) own
        = l.tally.count (.httpStatus status) own + if status = http then 1 else 0)
      ∧ (∀ status, next.tally.count (.rpcStatus status) own
        = l.tally.count (.rpcStatus status) own + if status = rpc then 1 else 0)
      ∧ ∀ metric method, method ≠ own →
        next.tally.count metric method = l.tally.count metric method := by
  obtain ⟨own, hown, rfl⟩ := Option.map_eq_some_iff.mp h
  have hfinish := Tally.count_finish l.tally own outcome
  refine ⟨own, _, _, hown, reported_classes outcome, fun status => ?_, fun status => ?_,
    fun metric method hne => ?_⟩
  · simpa [Session.share, Stage.share, settle] using hfinish (.httpStatus status) own
  · simpa [Session.share, Stage.share, settle] using hfinish (.rpcStatus status) own
  · simpa [Session.share, hne.symm, settle] using hfinish metric method

/-- A request that was dropped is never taken back. -/
theorem step?_dropped {l next : Layer} {action : Action} (h : l.step? action = some next)
    (method : String) : l.dropped method ≤ next.dropped method := by
  obtain ⟨own, -, rfl⟩ | ⟨number, outcome, own, -, hat, rfl⟩ | ⟨number, own, -, hat, rfl⟩ :=
    step?_cases h
  · simp [dropped]
  all_goals
    -- the request that changes its stage was in flight, so it did not count as dropped
    obtain ⟨hlt, hget⟩ := List.getElem?_eq_some_iff.mp hat
    simp [dropped, settle, List.countP_set hlt, hget, Stage.isDropped]

end Layer

/-! ## Results -/

/-- **The counts are conserved.** At every point of every interleaving of requests, for every
method: each request that was sent is open or counted once among the statuses of the server, and
open or counted once among the error codes.

When a request ends, one count of either classification goes up, the one with the label of its own
outcome, and no count of another method changes. The attempts of a call that is sent again count as
requests of their own, one after the other. -/
theorem counts_conserved {actions : List Action} {l : Layer}
    (h : Layer.run? {} actions = some l) :
    (∀ method,
        l.tally.count .numRequests method = l.tally.count .openRequests method
          + ∑ status, l.tally.count (.httpStatus status) method
        ∧ l.tally.count .numRequests method = l.tally.count .openRequests method
          + ∑ status, l.tally.count (.rpcStatus status) method)
      ∧ (∀ number outcome next, l.step? (.finish number outcome) = some next →
        ∃ own http rpc, l.inFlight? number = some own ∧ Reported outcome http.name rpc.name
          ∧ (∀ status, next.tally.count (.httpStatus status) own
            = l.tally.count (.httpStatus status) own + if status = http then 1 else 0)
          ∧ (∀ status, next.tally.count (.rpcStatus status) own
            = l.tally.count (.rpcStatus status) own + if status = rpc then 1 else 0)
          ∧ ∀ metric method, method ≠ own →
            next.tally.count metric method = l.tally.count metric method)
      ∧ ∀ (r : Transport.Report) (method : String),
        l.run? (Layer.attempts method l.sessions.length r.attempts)
          = some ⟨r.tally method l.tally,
              l.sessions ++ r.attempts.map fun outcome => ⟨method, .ended outcome⟩⟩ := by
  have hadds := Layer.adds_of_run h
  refine ⟨fun method => ⟨?_, ?_⟩, fun _ _ _ hstep => Layer.finish_counts hstep,
    fun r method => l.run?_attempts method r.attempts⟩
  · simp only [hadds _ method]
    exact Layer.total_eq_add_sum (fun s => s.share_numRequests_http method) l
  · simp only [hadds _ method]
    exact Layer.total_eq_add_sum (fun s => s.share_numRequests_rpc method) l

/-- Three requests that overlap: one is dropped, one is given up by the client, and one is
answered. Another one stays in flight. -/
def overlapping : List Action :=
  [.start "eth_blockNumber", .start "eth_getLogs", .start "batch",
    .finish 1 (.error (.usage Transport.timeoutText)), .drop 0, .start "eth_getLogs",
    .finish 2 (.ok (.batch [.failure (-32601) "" none]))]

/-- What the layer then holds. -/
def overlapped : Layer := (Layer.run? {} overlapping).getD {}

/-- The counts of one method, and the end of the request that is still in flight: the server refuses
it as a method that it does not have. -/
theorem counts_conserved_overlapping :
    Layer.run? {} overlapping = some overlapped
      ∧ overlapped.tally.count .numRequests "eth_getLogs" = 2
      ∧ overlapped.tally.count .numRequests "eth_getLogs"
        = overlapped.tally.count .openRequests "eth_getLogs"
          + ∑ status, overlapped.tally.count (.httpStatus status) "eth_getLogs"
      ∧ ∃ next own http rpc,
        overlapped.step? (.finish 3 (.error (.refused (-32601) "" none))) = some next
          ∧ overlapped.inFlight? 3 = some own ∧ own = "eth_getLogs"
          ∧ http.name = "two_hundreds" ∧ rpc.name = "method_not_found"
          ∧ next.tally.count (.httpStatus http) own
            = overlapped.tally.count (.httpStatus http) own + 1
          ∧ next.tally.count (.rpcStatus rpc) own
            = overlapped.tally.count (.rpcStatus rpc) own + 1 := by
  have hrun : Layer.run? {} overlapping = some overlapped := rfl
  obtain ⟨hsums, hfinish, -⟩ := counts_conserved hrun
  refine ⟨hrun, by decide +kernel, (hsums "eth_getLogs").1, ?_⟩
  have hown : overlapped.inFlight? 3 = some "eth_getLogs" := rfl
  have hstep : overlapped.step? (.finish 3 (.error (.refused (-32601) "" none)))
      = some (overlapped.settle 3 "eth_getLogs" (.ended (.error (.refused (-32601) "" none)))
        (.finished "eth_getLogs" (.error (.refused (-32601) "" none)))) := rfl
  obtain ⟨own, http, rpc, howns, hreported, hhttp, hrpc, -⟩ := hfinish _ _ _ hstep
  obtain ⟨hhttpName, hrpcName⟩ := Reported.unique (.refused .methodNotFound) hreported
  refine ⟨_, own, http, rpc, hstep, howns, ?_, hhttpName, hrpcName, ?_, ?_⟩
  · rw [hown] at howns
    exact (Option.some.inj howns).symm
  · rw [hhttp, if_pos rfl]
  · rw [hrpc, if_pos rfl]

/-- **The gauge of open requests counts what was dropped as well.** At every point of every
interleaving of requests it shows for every method how many are in flight and how many their caller
let go of before they ended. It is right just as long as none was dropped: what was dropped stays in
it, whatever happens later. -/
theorem gauge_counts_dropped {actions : List Action} {l : Layer}
    (h : Layer.run? {} actions = some l) (method : String) :
    l.tally.count .openRequests method = l.inFlight method + l.dropped method
      ∧ (l.tally.count .openRequests method = l.inFlight method ↔ l.dropped method = 0)
      ∧ ∀ more later, l.run? more = some later →
        later.inFlight method + l.dropped method ≤ later.tally.count .openRequests method := by
  have hadds := Layer.adds_of_run h
  have hgauge : l.tally.count .openRequests method = l.inFlight method + l.dropped method := by
    rw [hadds, Layer.total_openRequests]
  refine ⟨hgauge, by omega, fun more later hlater => ?_⟩
  have hkept : l.dropped method ≤ later.dropped method :=
    Layer.run?_keeps (P := fun next => l.dropped method ≤ next.dropped method)
      (fun hstep hle => hle.trans (Layer.step?_dropped hstep method)) hlater le_rfl
  rw [Layer.run?_keeps Layer.step?_adds hlater hadds, Layer.total_openRequests]
  omega

/-- A single request that is dropped, as a watch does that is told to stop while it waits for the
head of the chain: nothing is in flight, and the gauge shows one open request. -/
example :
    (Layer.run? {} [.start "eth_blockNumber", .drop 0]).map
        (fun l => (l.inFlight "eth_blockNumber", l.tally.count .openRequests "eth_blockNumber"))
      = some (0, 1) := by
  decide +kernel

end SmartAccount.Metrics
