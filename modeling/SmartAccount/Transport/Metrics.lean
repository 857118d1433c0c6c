import SmartAccount.Transport.Packet
/-!
# Metrics of the requests

For every method it is counted how many requests were sent, how many are open, and how they
ended, in two classifications: that of the server's status and that of the error code. A request
that ends is counted once in each.
-/

namespace SmartAccount.Metrics

/-- How a request ended, by the class of the server's status. -/
inductive HttpClass where
  | success
  | clientError
  | serverError
  deriving DecidableEq

def HttpClass.name : HttpClass → String
  | .success => "two_hundreds"
  | .clientError => "four_hundreds"
  | .serverError => "five_hundreds"

/-- How a request ended, by its error code. -/
inductive RpcClass where
  | success
  | parseError
  | invalidRequest
  | methodNotFound
  | invalidParams
  | internalError
  | serverError
  | other
  deriving DecidableEq

def RpcClass.name : RpcClass → String
  | .success => "success"
  | .parseError => "parse_error"
  | .invalidRequest => "invalid_request"
  | .methodNotFound => "method_not_found"
  | .invalidParams => "invalid_params"
  | .internalError => "internal_error"
  | .serverError => "server_error"
  | .other => "other"

/-- The class of an error code. -/
def RpcClass.ofCode (code : Int) : RpcClass :=
  if code = -32700 then .parseError
  else if code = -32600 then .invalidRequest
  else if code = -32601 then .methodNotFound
  else if code = -32602 then .invalidParams
  else if code = -32603 then .internalError
  else if -32099 ≤ code ∧ code ≤ -32000 then .serverError
  else .other

/-- The class of a packet: that of its first payload. An empty batch counts as a success. -/
def RpcClass.ofPacket : Packet → RpcClass
  | .single (.success _) => .success
  | .single (.failure code _ _) => ofCode code
  | .batch [] => .success
  | .batch (.success _ :: _) => .success
  | .batch (.failure code _ _ :: _) => ofCode code

/-- The two classes of an error that is not in a packet. -/
def classesOfError : RpcError → HttpClass × RpcClass
  | .refused code _ _ => (.success, .ofCode code)
  | .nullResponse => (.serverError, .internalError)
  | .unwritable _ => (.serverError, .internalError)
  | .unsupported _ => (.clientError, .methodNotFound)
  | .usage _ => (.clientError, .invalidRequest)
  | .malformed _ => (.clientError, .parseError)
  | .transport _ => (.serverError, .serverError)
  | .http _ _ => (.serverError, .serverError)

/-- The two classes of what an attempt came to. -/
def classes : Delivered → HttpClass × RpcClass
  | .ok packet => (.success, .ofPacket packet)
  | .error e => classesOfError e

/-- What is counted. -/
inductive Metric where
  | numRequests
  | openRequests
  | requestLatency
  | httpStatus (status : HttpClass)
  | rpcStatus (status : RpcClass)
  deriving DecidableEq

/-- The part of the program that the metrics belong to. -/
def scope : String := "aakit_provider_rpc"

namespace Metric

/-- The name of a metric. -/
def name : Metric → String
  | .numRequests => "num_requests"
  | .openRequests => "open_requests"
  | .requestLatency => "request_latency"
  | .httpStatus _ => "http_response_status"
  | .rpcStatus _ => "rpc_response_status"

/-- The status that a metric counts, if it counts one. -/
def status? : Metric → Option String
  | .httpStatus status => some status.name
  | .rpcStatus status => some status.name
  | _ => none

/-- The name of a metric with its labels. -/
def label (m : Metric) (method : String) : String :=
  scope ++ "." ++ m.name ++ "\x7bmethod_name=" ++ method
    ++ (m.status?.map fun status => ",status_code=" ++ status).getD "" ++ "\x7d"

end Metric

/-- The counts, by metric and method. -/
abbrev Tally := List ((Metric × String) × Int)

namespace Tally

/-- The count of a metric for a method. -/
def count (t : Tally) (m : Metric) (method : String) : Int :=
  ((t.find? (·.1 = (m, method))).map (·.2)).getD 0

/-- Adds to the count of a metric for a method. -/
def add (m : Metric) (method : String) (n : Int) : Tally → Tally
  | [] => [((m, method), n)]
  | (key, k) :: rest =>
    if key = (m, method) then (key, k + n) :: rest else (key, k) :: add m method n rest

theorem count_add (t : Tally) (m m' : Metric) (method method' : String) (n : Int) :
    (t.add m method n).count m' method'
      = t.count m' method' + if (m', method') = (m, method) then n else 0 := by
  induction t with
  | nil =>
    by_cases h : (m', method') = (m, method)
    · simp [add, count, h]
    · have : (m, method) ≠ (m', method') := fun e => h e.symm
      simp [add, count, h, this]
  | cons entry rest ih =>
    obtain ⟨key, k⟩ := entry
    by_cases hk : key = (m, method)
    · by_cases h : (m', method') = (m, method)
      · simp [add, count, hk, h]
      · have : (m, method) ≠ (m', method') := fun e => h e.symm
        simp [add, count, hk, h, this]
    · by_cases h : key = (m', method')
      · have : (m', method') ≠ (m, method) := fun e => hk (h.trans e)
        simp [add, count, h, this]
      · simp only [count] at ih
        simp [add, count, hk, h, ih]

/-- Counts a request of a method that is sent. -/
def start (method : String) (t : Tally) : Tally :=
  (t.add .numRequests method 1).add .openRequests method 1

/-- Counts the end of a request of a method. -/
def finish (method : String) (outcome : Delivered) (t : Tally) : Tally :=
  let (http, rpc) := classes outcome
  (((t.add .openRequests method (-1)).add .requestLatency method 1).add
    (.httpStatus http) method 1).add (.rpcStatus rpc) method 1

end Tally

/-- What can happen to a request as far as the metrics are concerned. -/
inductive Event where
  | started (method : String)
  | finished (method : String) (outcome : Delivered)
  /-- The caller let go of the request before there was an answer. Nothing is counted. -/
  | dropped (method : String)

/-- The counts after an event. -/
def Tally.after (t : Tally) : Event → Tally
  | .started method => t.start method
  | .finished method outcome => t.finish method outcome
  | .dropped _ => t

end SmartAccount.Metrics
