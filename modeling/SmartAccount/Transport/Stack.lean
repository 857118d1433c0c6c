import SmartAccount.Json.Reader
import SmartAccount.Rpc.Dialogue
import SmartAccount.Transport.Metrics
/-!
# The way to the server

A request passes three layers on its way to the server. The outermost sends it again when the
server asks for fewer requests, the next counts every attempt, and the innermost gives up an
attempt that takes too long. So each attempt is counted and timed on its own.
-/

namespace SmartAccount.Transport

/-- What becomes of one attempt at the server. -/
inductive Delivery where
  /-- It comes to an end after a delay. -/
  | after (delay : Duration) (outcome : Delivered)
  | never

/-- What the client says when it gives up an attempt. -/
def timeoutText : String := "provider request timeout from client side"

/-- What an attempt comes to for a client that gives up after `timeout`. -/
def Delivery.within (timeout : Duration) : Delivery → Delivered
  | .after delay outcome => if delay ≤ timeout then outcome else .error (.usage timeoutText)
  | .never => .error (.usage timeoutText)

/-- How long the attempt takes. -/
def Delivery.span (timeout : Duration) : Delivery → Duration
  | .after delay _ => min delay timeout
  | .never => timeout

/-- Whether a text holds another one. -/
def holds (text part : String) : Bool := 1 < (text.splitOn part).length

/-- Whether an error of the node says that there were too many requests. -/
def isLimit (code : Int) (message : String) : Bool :=
  code = 429 || code = -32005
    || code = -32016 && holds message "rate limit"
    || code = -32012 && holds message "credits"
    || code = -32007 && holds message "request limit reached"
    || message = "header not found"
    || message = "daily request count exceeded, request rate limited"
    || ["rate limit", "rate exceeded", "too many requests", "credits limited", "request limit",
        "maximum number of requests"].any (holds message)

/-- Whether a text describes an error that says so. -/
def isLimitText (text : String) : Bool :=
  match Json.parse? text with
  | none => false
  | some j =>
    match Payload.failure? j <|> (j.get? "error" >>= Payload.failure?) with
    | some (.failure code message _) => isLimit code message
    | _ => false

/-- Whether to send a request again that ended with an error. -/
def isRetryable : RpcError → Bool
  | .refused code message _ => isLimit code message
  | .nullResponse => true
  | .transport text => holds text "429 Too Many Requests"
  | .http status _ => status = 429 || status = 503
  | .usage _ => false
  | .unsupported _ => false
  | .unwritable _ => false
  | .malformed text => isLimitText text

/-- The time that follows a phrase in a text: a whole number of milliseconds or of seconds. -/
def spanAfter? (phrase text : String) : Option Duration := do
  let rest ← (text.splitOn phrase)[1]?
  let digits := rest.toList.takeWhile Char.isDigit
  let n ← Numeral.plain? (String.ofList digits)
  match rest.toList.drop digits.length with
  | 'm' :: 's' :: _ => some (.ofMillis n)
  | 's' :: _ => some (.ofSeconds n)
  | _ => none

/-- How long to pause after an error before a request is sent again: as long as the node says,
or half a second. -/
def pauseAfter : RpcError → Duration
  | .refused _ message _ => (spanAfter? "try again in " message).getD (.ofMillis 500)
  | _ => .ofMillis 500

/-- How often a request is sent again at most. -/
def maxRetries : Nat := 10

/-- The error of a request that was sent again too often. -/
def exhausted (e : RpcError) : RpcError :=
  .transport ("Max retries exceeded " ++ e.message?.getD "")

/-- What follows an attempt. -/
inductive Verdict where
  /-- The call is over. -/
  | settled (result : Delivered)
  /-- The request is to be sent again. -/
  | again (error : RpcError)

/-- What follows an attempt that came to an outcome, where `retryable` says after which errors to
send again. -/
def verdict (retryable : RpcError → Bool) (outcome : Delivered) : Verdict :=
  match outcome.error? with
  | none => .settled outcome
  | some e => if retryable e then .again e else .settled (.error e)

/-- What a call comes to, with what every attempt came to. -/
structure Report where
  result : Delivered
  attempts : List Delivered

/-- How a call is made: an attempt of a number, and a pause before the next one. -/
structure Means (m : Type → Type) where
  attempt : Nat → m Delivered
  pause : RpcError → m Unit
  /-- After which errors the request is sent again. -/
  retryable : RpcError → Bool := isRetryable

/-- A call from its attempt number `k` on, which can be repeated `retries` times. -/
def callFrom {m : Type → Type} [Monad m] (means : Means m) (k : Nat) : (retries : Nat) → m Report
  | 0 => do
    let outcome ← means.attempt k
    match verdict means.retryable outcome with
    | .settled result => return ⟨result, [outcome]⟩
    | .again e => return ⟨.error (exhausted e), [outcome]⟩
  | retries + 1 => do
    let outcome ← means.attempt k
    match verdict means.retryable outcome with
    | .settled result => return ⟨result, [outcome]⟩
    | .again e => do
      means.pause e
      let rest ← callFrom means (k + 1) retries
      return { rest with attempts := outcome :: rest.attempts }

/-- A call: the attempts are numbered from zero. -/
def callWith {m : Type → Type} [Monad m] (means : Means m) : m Report :=
  callFrom means 0 maxRetries

/-- A call whose attempts are known in advance. -/
def call (timeout : Duration) (delivery : Nat → Delivery)
    (retryable : RpcError → Bool := isRetryable) : Report :=
  Id.run (callWith ⟨fun k => pure ((delivery k).within timeout), fun _ => pure (), retryable⟩)

/-- The counts after a call of a method. -/
def Report.tally (r : Report) (method : String) (t : Metrics.Tally) : Metrics.Tally :=
  r.attempts.foldl (fun t outcome => (t.start method).finish method outcome) t

/-- What a server with known deliveries has seen so far. -/
structure Server where
  /-- What becomes of the attempts to come. -/
  deliveries : List Delivery
  /-- The requests of the attempts before; a batch is a list. -/
  received : List (Request ⊕ List String) := []
  tally : Metrics.Tally := []

/-- The method by which a batch is counted. -/
def batchMethod : String := "batch"

/-- Sends a request or a batch to a server with known deliveries. Attempts beyond them never
come to an end. -/
def send (timeout : Duration) (what : Request ⊕ List String) (s : Server) : Delivered × Server :=
  let report := call timeout fun k => (s.deliveries[k]?).getD .never
  let method := match what with
    | .inl request => request.method
    | .inr _ => batchMethod
  let count := report.attempts.length
  (report.result,
    { deliveries := s.deliveries.drop count
      received := s.received ++ List.replicate count what
      tally := report.tally method s.tally })

/-- The answer to a single request. -/
def answer : Delivered → Answer
  | .ok (.single payload) => payload.answer
  | .ok (.batch _) => .error (.malformed "")
  | .error e => .error e

/-- The server as a node. -/
def node (timeout : Duration) : Dialogue.Node Server := fun request s =>
  let (delivered, s) := send timeout (.inl request) s
  (answer delivered, s)

/-- The delivery of an answer with a status and a body. -/
def ofHttp (status : Nat) (body : String) : Delivered :=
  if 200 ≤ status && status < 300 then
    match Json.parse? body >>= Payload.ofBody? with
    | some payload => .ok (.single payload)
    | none => .error (.malformed body)
  else .error (.http status body)

end SmartAccount.Transport
