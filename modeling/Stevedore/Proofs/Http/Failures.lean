import Stevedore.Backend.Api
import Stevedore.Proofs.Http.Front
/-!
# Errors of the cluster at the client

When the server of the cluster refuses a call and describes why, the operation ends there, and the client
is told: in the status and the short name by the reason, and word for word in the message. It makes no
difference which call it was, but for the listings of the pods for which a removal waits.

Main definition:

- `Api.ServerError.told`: how the client is told of an error.

Main results:

- Theorem `failure?_reply`: a call that is refused fails.
- Theorem `respond_of_refusal`: what a refused call does to the response to a request.
-/

namespace Stevedore

open Backend Program Adapter

/-! ## Refused calls -/

namespace Api

/-- The status and the short name by which the client is told of an error. -/
def ServerError.told (e : ServerError) : Nat × String :=
  if e.reason = "NotFound" ∨ e.code = 404 then (404, "not_found")
  else if e.reason = "AlreadyExists" then (409, "conflict")
  else (500, "internal_error")

/-- What the client is told follows from the two classifications of the error. -/
theorem ServerError.told_eq (e : ServerError) :
    e.told = (e.toBackendError.toError.kind.statusCode, e.toBackendError.toError.kind.identifier) := by
  unfold told toBackendError
  split
  · rfl
  · split <;> rfl

/-- The client is told of one of three statuses. -/
theorem ServerError.told_mem (e : ServerError) : e.told.1 ∈ [404, 409, 500] := by
  unfold told
  split
  · simp
  · split <;> simp

/-- The message of the server is that of the failure. -/
@[simp] theorem ServerError.message_toBackendError (e : ServerError) :
    e.toBackendError.message = e.message := by
  unfold toBackendError
  split
  · rfl
  · split <;> rfl

section

variable {status : Nat} {body : String} {e : ServerError}

/-- A response that describes an error is read as the failure it is classified as. -/
theorem readResponse_of_isFailure (decode : String → Except Json.ReadError α)
    (hstatus : isFailure status) (hbody : Json.decodeString ServerError.record.read body = .ok e) :
    readResponse decode (.received status body) = .error e.toBackendError := by
  unfold readResponse ServerError.ofBody
  simp only [hstatus, hbody, if_pos]

/-- A call that is refused fails with the error that the body describes. -/
theorem failure?_reply (hstatus : isFailure status)
    (hbody : Json.decodeString ServerError.record.read body = .ok e) {call : Call}
    (hcall : call ≠ .health) :
    call.failure? (reply (.received status body) call) = some e.toBackendError := by
  cases call with
  | health => contradiction
  | _ => exact congrArg errorOf? (readResponse_of_isFailure _ hstatus hbody)

end

namespace Script

/-- A call for which a request can be made takes the next response. -/
theorem handle_of_request {clusterNamespace : String} {call : Call} {request : Request} {s : Script}
    {response : Response} {rest : List Response}
    (hrequest : Api.request clusterNamespace call = .ok request)
    (hresponses : s.responses = response :: rest) :
    handle clusterNamespace call s = (reply response call, ⟨rest, s.sent ++ [request]⟩) := by
  unfold handle
  rw [hrequest]
  simp only [exchange, hresponses]

end Script

end Api

/-! ## Refused requests -/

namespace Http

open Api (Script ServerError)

/-- A call that the server refuses, and describes why, is the last one, unless it lists the pods for
which a removal waits. The client is told of the error in the class of its reason, with its message. -/
theorem respond_of_refusal {config : Config} {clock : Clock config.pollInterval.toNanos}
    {r : Request} {a : Action} (ha : AsksFor config clock r a)
    (hobjects : ∀ config, a ≠ .info config) {clusterNamespace : String} {s : Script}
    {before after : List Exchange} {x : Exchange}
    (ht : (respond config clock r).transcript (Script.handle clusterNamespace) s =
      before ++ x :: after)
    (hwait : ∀ removal selector, a = .destroy removal → x.call ≠ .listPods selector)
    {request : Api.Request} (hrequest : Api.request clusterNamespace x.call = .ok request)
    {status : Nat} {body : String} {rest : List Api.Response} {e : ServerError}
    (hresponses : (replay (Script.handle clusterNamespace) s before).responses =
      .received status body :: rest)
    (hstatus : Api.isFailure status)
    (hbody : Json.decodeString ServerError.record.read body = .ok e) :
    after = [] ∧
    ∃ response,
      (respond config clock r).run (Script.handle clusterNamespace) s =
        (.ok response,
          ⟨rest, (replay (Script.handle clusterNamespace) s before).sent ++ [request]⟩) ∧
      response.status = e.told.1 ∧ response.status ∈ [404, 409, 500] ∧
      Json.decodeString ErrorBody.record.read response.body = .ok ⟨e.told.2, e.message⟩ := by
  have hhandle := Script.handle_of_request hrequest hresponses
  have hx : x.failure? = some e.toBackendError := by
    have hobject : x.call ≠ .health := by
      rw [respond_of_asksFor ha, transcript_answering] at ht
      exact call_ne_health (Script.handle clusterNamespace) hobjects s x (by simp [ht])
    have hreply := reply_of_transcript ht
    rw [hhandle] at hreply
    unfold Exchange.failure?
    rw [hreply]
    exact Api.failure?_reply hstatus hbody hobject
  have hleft := run_snd (Script.handle clusterNamespace) (respond config clock r) s
  rw [respond_of_asksFor ha] at ht hleft ⊢
  have hoperation := ht
  rw [transcript_answering] at hoperation
  obtain ⟨rfl, hfailed⟩ := ends_of_failure hoperation hx hwait
  rw [ht, replay_concat, hhandle, run_answering] at hleft
  let response := (ApiError.adapter e.toBackendError.toError).response
  refine ⟨rfl, response, ?_, ?_⟩
  · rw [run_answering, hfailed]
    exact Prod.ext rfl hleft
  · obtain ⟨htold, hread⟩ := reportsError_response e.toBackendError.toError
    rw [BackendError.message_toError, ServerError.message_toBackendError] at hread
    have hstatus : response.status = e.told.1 := by rw [ServerError.told_eq, htold]
    refine ⟨hstatus, hstatus ▸ e.told_mem, ?_⟩
    rw [ServerError.told_eq]
    exact hread

/-! ### A name that is taken -/

/-- A request to create a service of which nothing is said. -/
def plainCreation : Request := .posting "[\x7b\x7d]"

/-- The request asks for the creation of a service of which nothing is said. -/
theorem asksFor_plainCreation (config : Config) (clock : Clock config.pollInterval.toNanos) :
    AsksFor config clock plainCreation (.create config [{}]) :=
  asksFor_posting (by decide +kernel) (by decide +kernel)

/-- The error that the server describes when a name is taken. -/
def nameTaken : ServerError where
  status := "Failure"
  message := "\"web\" is\ntaken"
  reason := "AlreadyExists"
  code := 409

/-- The body that describes it. -/
def nameTakenBody : Json :=
  .object [("code", .integer 409), ("status", .string nameTaken.status),
    ("message", .string nameTaken.message), ("reason", .string nameTaken.reason)]

/-- A server that refuses the first call. -/
def refusing : Script := { responses := [.received 409 nameTakenBody.render, .lost "too late"] }

/-- A creation that is refused because the name is taken: one request is sent, and the client gets
409 with the message as the server wrote it. -/
theorem respond_of_refusal_nameTaken :
    ∃ response, (respond {} (.steady _ 0 0) plainCreation).run (Script.handle "default") refusing =
        (.ok response, ⟨[.lost "too late"], [⟨.post,
          "/api/v1/namespaces/default/replicationcontrollers?",
          some (Workload.controller {}).toJson⟩]⟩) ∧
      response.status = 409 ∧
      Json.decodeString ErrorBody.record.read response.body =
        .ok ⟨"conflict", "\"web\" is\ntaken"⟩ := by
  obtain ⟨reply, after, ht⟩ : ∃ reply after,
      (respond {} (.steady _ 0 0) plainCreation).transcript (Script.handle "default") refusing =
        [] ++ ⟨.createController (Workload.controller {}), reply⟩ :: after := by
    rw [respond_of_asksFor (asksFor_plainCreation {} (.steady _ 0 0))]
    exact ⟨_, _, rfl⟩
  have hread : Json.decodeString ServerError.record.read nameTakenBody.render = .ok nameTaken := by
    decide +kernel
  obtain ⟨-, response, hrun, hstatus, -, hbody⟩ :=
    respond_of_refusal (asksFor_plainCreation {} (.steady _ 0 0)) (fun _ h => nomatch h) ht
      (fun _ _ h => nomatch h) rfl rfl rfl hread
  exact ⟨response, hrun, hstatus, hbody⟩

end Http

end Stevedore
