import SmartAccount.Transport.Metrics
/-!
# The statuses of an outcome

A request that ends is counted under two status labels. What these are is said here outcome by
outcome (`Reported`), for the answers of the node and for everything that can go wrong on the way,
and a code of the node has its label by the ranges that JSON-RPC sets aside (`CodeStatus`).

The metric layer computes classes instead, and they have just these labels (`reported_iff`). So an
outcome has one label of either kind (`Reported.unique`).
-/

namespace SmartAccount.Metrics

/-- The label of an error code. -/
inductive CodeStatus : Int → String → Prop where
  | parseError : CodeStatus (-32700) "parse_error"
  | invalidRequest : CodeStatus (-32600) "invalid_request"
  | methodNotFound : CodeStatus (-32601) "method_not_found"
  | invalidParams : CodeStatus (-32602) "invalid_params"
  | internalError : CodeStatus (-32603) "internal_error"
  | serverError {code : Int} (hlow : -32099 ≤ code) (hhigh : code ≤ -32000) :
      CodeStatus code "server_error"
  | other {code : Int} (hnamed : code ∉ [-32700, -32600, -32601, -32602, -32603])
      (hserver : code < -32099 ∨ -32000 < code) : CodeStatus code "other"

/-- The label of the answer to one request. -/
inductive PayloadStatus : Payload → String → Prop where
  | success {value : Json} : PayloadStatus (.success value) "success"
  | failure {code : Int} {message rpc : String} {data : Option Json} (h : CodeStatus code rpc) :
      PayloadStatus (.failure code message data) rpc

/-- The labels under which the end of a request is counted: that of the server's status, and that of
the error code. Of a batch the first answer counts. -/
inductive Reported : Delivered → (http rpc : String) → Prop where
  | single {payload : Payload} {rpc : String} (h : PayloadStatus payload rpc) :
      Reported (.ok (.single payload)) "two_hundreds" rpc
  | batch {payload : Payload} {rest : List Payload} {rpc : String}
      (h : PayloadStatus payload rpc) :
      Reported (.ok (.batch (payload :: rest))) "two_hundreds" rpc
  | emptyBatch : Reported (.ok (.batch [])) "two_hundreds" "success"
  | refused {code : Int} {message rpc : String} {data : Option Json} (h : CodeStatus code rpc) :
      Reported (.error (.refused code message data)) "two_hundreds" rpc
  | nullResponse : Reported (.error .nullResponse) "five_hundreds" "internal_error"
  | unwritable {text : String} :
      Reported (.error (.unwritable text)) "five_hundreds" "internal_error"
  | unsupported {feature : String} :
      Reported (.error (.unsupported feature)) "four_hundreds" "method_not_found"
  /-- The client gave up, as it does when the time is over. -/
  | usage {text : String} : Reported (.error (.usage text)) "four_hundreds" "invalid_request"
  | malformed {text : String} :
      Reported (.error (.malformed text)) "four_hundreds" "parse_error"
  | transport {text : String} :
      Reported (.error (.transport text)) "five_hundreds" "server_error"
  | http {status : Nat} {body : String} :
      Reported (.error (.http status body)) "five_hundreds" "server_error"

/-! ## The classes have these labels -/

theorem codeStatus_iff {code : Int} {rpc : String} :
    CodeStatus code rpc ↔ rpc = (RpcClass.ofCode code).name := by
  constructor
  · intro h
    cases h with
    | serverError hlow hhigh =>
      unfold RpcClass.ofCode
      rw [if_neg (by omega), if_neg (by omega), if_neg (by omega), if_neg (by omega),
        if_neg (by omega), if_pos ⟨hlow, hhigh⟩]
      rfl
    | other hnamed hserver =>
      simp only [List.mem_cons, List.not_mem_nil, or_false, not_or] at hnamed
      obtain ⟨h₁, h₂, h₃, h₄, h₅⟩ := hnamed
      unfold RpcClass.ofCode
      rw [if_neg h₁, if_neg h₂, if_neg h₃, if_neg h₄, if_neg h₅, if_neg (by omega)]
      rfl
    | _ => rfl
  · rintro rfl
    -- the codes with a name of their own, and then the range of the server
    by_cases h₁ : code = -32700
    · exact h₁ ▸ .parseError
    by_cases h₂ : code = -32600
    · exact h₂ ▸ .invalidRequest
    by_cases h₃ : code = -32601
    · exact h₃ ▸ .methodNotFound
    by_cases h₄ : code = -32602
    · exact h₄ ▸ .invalidParams
    by_cases h₅ : code = -32603
    · exact h₅ ▸ .internalError
    unfold RpcClass.ofCode
    rw [if_neg h₁, if_neg h₂, if_neg h₃, if_neg h₄, if_neg h₅]
    by_cases hserver : -32099 ≤ code ∧ code ≤ -32000
    · rw [if_pos hserver]
      exact .serverError hserver.1 hserver.2
    · rw [if_neg hserver]
      exact .other (by simp [h₁, h₂, h₃, h₄, h₅]) (by omega)

theorem payloadStatus_iff {payload : Payload} {rpc : String} :
    PayloadStatus payload rpc ↔ rpc = (RpcClass.ofPacket (.single payload)).name := by
  constructor
  · intro h
    cases h with
    | success => rfl
    | failure hcode => exact codeStatus_iff.mp hcode
  · rintro rfl
    cases payload with
    | success value => exact .success
    | failure code message data => exact .failure (codeStatus_iff.mpr rfl)

/-- **An outcome is reported by the labels of its classes**, and by no others. -/
theorem reported_iff {outcome : Delivered} {http rpc : String} :
    Reported outcome http rpc
      ↔ http = (classes outcome).1.name ∧ rpc = (classes outcome).2.name := by
  constructor
  · intro h
    cases h with
    | single hpayload => exact ⟨rfl, payloadStatus_iff.mp hpayload⟩
    | @batch payload rest rpc hpayload =>
      refine ⟨rfl, (payloadStatus_iff.mp hpayload).trans ?_⟩
      cases payload <;> rfl
    | refused hcode => exact ⟨rfl, codeStatus_iff.mp hcode⟩
    | _ => exact ⟨rfl, rfl⟩
  · rintro ⟨rfl, rfl⟩
    cases outcome with
    | ok packet =>
      match packet with
      | .single payload => exact .single (payloadStatus_iff.mpr rfl)
      | .batch [] => exact .emptyBatch
      | .batch (.success value :: rest) => exact .batch .success
      | .batch (.failure code message data :: rest) =>
        exact .batch (.failure (codeStatus_iff.mpr rfl))
    | error e =>
      cases e with
      | refused code message data => exact .refused (codeStatus_iff.mpr rfl)
      | nullResponse => exact .nullResponse
      | unwritable text => exact .unwritable
      | unsupported feature => exact .unsupported
      | usage text => exact .usage
      | malformed text => exact .malformed
      | transport text => exact .transport
      | http status body => exact .http

theorem reported_classes (outcome : Delivered) :
    Reported outcome (classes outcome).1.name (classes outcome).2.name :=
  reported_iff.mpr ⟨rfl, rfl⟩

/-- An outcome has one label of either kind. -/
theorem Reported.unique {outcome : Delivered} {http rpc http' rpc' : String}
    (h : Reported outcome http rpc) (h' : Reported outcome http' rpc') :
    http' = http ∧ rpc' = rpc := by
  obtain ⟨rfl, rfl⟩ := reported_iff.mp h
  exact reported_iff.mp h'

end SmartAccount.Metrics
