import Stevedore.Proofs.Adapter.Failures
import Stevedore.Proofs.Http.Bodies
import Stevedore.Proofs.Http.Paths
/-!
# The server as a front of the adapter

A request asks for an operation of the adapter, or it is turned away. In the first case the calls are
those of the operation, and the response says how it ended; in the second no call is made. A batch is
created only from a body within the limit: one that is longer is turned away unread.

Main definitions:

- `AsksFor`: the request asks for an operation.
- `TurnedAway`: the request is turned away with a response.
- `Conveys`: how the outcome of an operation comes to the client.
- `Fronts`: what the server does on a request, for every backend.

Main results:

- Theorem `respond_of_asksFor`: what is done on a request for an operation.
- Theorem `asksFor_or_turnedAway`: what becomes of every request.
- Theorem `respond_elim`: how to show something of the answers to all requests.
- Theorem `fronts_respond`: the server is such a front of the adapter.
- Theorem `oversized_not_reported`: a body beyond the limit is not reported as one that is no batch.
-/

namespace Stevedore

open Backend Program Adapter

/-! ## Errors as values -/

namespace Program

/-- Turning errors into values changes no call. -/
theorem transcript_attempt (handler : Handler σ) (p : Program α) (s : σ) :
    p.attempt.transcript handler s = p.transcript handler s := by
  induction p generalizing s with
  | done a => rfl
  | fail e => cases e <;> rfl
  | call c next ih => simp [attempt, ih]

/-- An error becomes a value, and the backend is left where the program left it. -/
theorem run_attempt (handler : Handler σ) (p : Program α) (s : σ) :
    p.attempt.run handler s =
      match p.run handler s with
      | (.ok a, s) => (.ok (.ok a), s)
      | (.error (.error e), s) => (.ok (.error e), s)
      | (.error .crash, s) => (.error .crash, s) := by
  induction p generalizing s with
  | done a => rfl
  | fail e => cases e <;> rfl
  | call c next ih => simp [attempt, ih]

end Program

namespace Http

open Text (IsSegment)

/-! ## Responses to operations -/

/-- The response to the result of an operation. -/
def success : Answer → Response
  | .listed records => .json 200 (.list DeploymentRecord.toJson records)
  | .found record => .json 200 record.toJson
  | .created records => .json 201 (.list DeploymentRecord.toJson records)
  | .destroyed => { status := 204 }
  | .informed info => .json 200 info.toJson

/-- The response says what an operation returned. -/
def Reports : Answer → Response → Prop
  | .listed records, r =>
    r.status = 200 ∧
      Json.decodeString (Json.readList DeploymentRecord.record.read) r.body = .ok records
  | .found record, r =>
    r.status = 200 ∧ Json.decodeString DeploymentRecord.record.read r.body = .ok record
  | .created records, r =>
    r.status = 201 ∧
      Json.decodeString (Json.readList DeploymentRecord.record.read) r.body = .ok records
  | .destroyed, r => r.status = 204 ∧ r.body = ""
  | .informed info, r =>
    r.status = 200 ∧ Json.decodeString AdapterInfo.record.read r.body = .ok info

/-- The response says with which error an operation failed. -/
def ReportsError (e : Error) (r : Response) : Prop :=
  r.status = e.kind.statusCode ∧
    Json.decodeString ErrorBody.record.read r.body = .ok ⟨e.kind.identifier, e.message⟩

/-- The response to a result says what was returned. -/
theorem reports_success (answer : Answer) : Reports answer (success answer) := by
  cases answer with
  | listed records => exact ⟨rfl, decode_json DeploymentRecord.readsBack.list 200 records⟩
  | found record => exact ⟨rfl, decode_json DeploymentRecord.readsBack 200 record⟩
  | created records => exact ⟨rfl, decode_json DeploymentRecord.readsBack.list 201 records⟩
  | destroyed => exact ⟨rfl, rfl⟩
  | informed info => exact ⟨rfl, decode_json AdapterInfo.readsBack 200 info⟩

/-- The statuses of errors are standard ones. -/
theorem standardStatus_statusCode (k : ErrorKind) : standardStatus k.statusCode = k.statusCode := by
  cases k <;> decide

/-- The response to an error says which one it is. -/
theorem reportsError_response (e : Error) : ReportsError e (ApiError.adapter e).response :=
  ⟨standardStatus_statusCode e.kind, decode_json ErrorBody.readsBack _ (ApiError.adapter e).body⟩

/-- How the outcome of an operation comes to the client: a result and an error as responses. A crash
leaves the client without one. -/
inductive Conveys : Except Failure Answer → Except Failure Response → Prop
  | result {answer : Answer} {r : Response} (h : Reports answer r) : Conveys (.ok answer) (.ok r)
  | error {e : Error} {r : Response} (h : ReportsError e r) : Conveys (.error (.error e)) (.ok r)
  | crash : Conveys (.error .crash) (.error .crash)

/-- The response to the outcome of an operation. -/
def answered (response : α → Response) : Except Failure α → Except Failure Response
  | .ok a => .ok (response a)
  | .error (.error e) => .ok (ApiError.adapter e).response
  | .error .crash => .error .crash

/-- The response to an outcome conveys it. -/
theorem conveys_answered (outcome : Except Failure Answer) :
    Conveys outcome (answered success outcome) := by
  rcases outcome with (e | _) | answer
  · exact .error (reportsError_response e)
  · exact .crash
  · exact .result (reports_success answer)

/-- What is made of a result before the response is no matter of the program. -/
theorem answering_bind_done (p : Program α) (f : α → β) (response : β → Response) :
    answering (p >>= fun a => done (f a)) response = answering p fun a => response (f a) := by
  unfold answering
  induction p with
  | done a => rfl
  | fail e => cases e <;> rfl
  | call c next ih =>
      rw [call_bind]
      simp only [attempt, call_bind]
      congr 1
      funext reply
      exact ih reply

/-- Answering makes the calls of the operation and no other. -/
theorem transcript_answering (handler : Handler σ) (p : Program α) (response : α → Response) (s : σ) :
    (answering p response).transcript handler s = p.transcript handler s := by
  unfold answering
  rw [transcript_bind, transcript_attempt]
  split
  · next result _ _ => cases result <;> simp
  · simp

/-- The program leaves the backend as the operation does, and responds to its outcome. -/
theorem run_answering (handler : Handler σ) (p : Program α) (response : α → Response) (s : σ) :
    (answering p response).run handler s =
      (answered response (p.run handler s).1, (p.run handler s).2) := by
  unfold answering
  rw [run_bind, run_attempt]
  rcases p.run handler s with ⟨(e | _) | a, left⟩ <;> rfl

/-! ## Requests for operations -/

section

variable (config : Config) (clock : Clock config.pollInterval.toNanos)

/-- The request asks for an operation of the adapter. A batch is taken from a body of two mebibytes at
most. -/
inductive AsksFor (r : Request) : Action → Prop
  | list (hmethod : r.method = "GET") (hpath : r.uri.path = Resource.deployments.path) :
      AsksFor r .list
  | get {segment : List Char} {id : String} (hmethod : r.method = "GET")
      (hpath : r.uri.path = (Resource.deployment segment).path) (hsegment : IsSegment segment)
      (hid : idOf segment = some id) : AsksFor r (.get id)
  | create {batch : List Service} (hmethod : r.method = "POST")
      (hpath : r.uri.path = Resource.deployments.path) (hsize : r.body.length ≤ 2097152)
      (hbody : Json.decode Service.readList (.ofBytes r.body) = .ok batch) :
      AsksFor r (.create config batch)
  | destroy {segment : List Char} {id : String} (hmethod : r.method = "DELETE")
      (hpath : r.uri.path = (Resource.deployment segment).path) (hsegment : IsSegment segment)
      (hid : idOf segment = some id) : AsksFor r (.destroy ⟨config, clock, id⟩)
  | info (hmethod : r.method = "GET") (hpath : r.uri.path = Resource.adapter.path) :
      AsksFor r (.info config)

/-- The request is turned away with a response, which has this status. -/
inductive TurnedAway (r : Request) : Nat → Response → Prop
  /-- Its path leads nowhere. -/
  | nowhere (hpath : ∀ place : Resource, place.IsPlace → r.uri.path ≠ place.path) :
      TurnedAway r 404 notFound
  /-- The resource at its path does not know its method. -/
  | method {place : Resource} (hpath : r.uri.path = place.path) (hplace : place.IsPlace)
      (hmethod : r.method ∉ place.methods) : TurnedAway r 405 (notAllowed place)
  /-- The id in its path is no text. -/
  | id {segment : List Char} (hmethod : r.method ∈ ["GET", "PUT", "DELETE"])
      (hpath : r.uri.path = (Resource.deployment segment).path) (hsegment : IsSegment segment)
      (hid : idOf segment = none) : TurnedAway r 400 badId
  /-- It asks for an update. -/
  | update {segment : List Char} {id : String} (hmethod : r.method = "PUT")
      (hpath : r.uri.path = (Resource.deployment segment).path) (hsegment : IsSegment segment)
      (hid : idOf segment = some id) :
      TurnedAway r 501
        (ApiError.notImplemented ("updating service '" ++ id ++ "' is not supported")).response
  /-- Its body is longer than two mebibytes, so it is not looked at. -/
  | oversized (hmethod : r.method = "POST") (hpath : r.uri.path = Resource.deployments.path)
      (hsize : 2097152 < r.body.length) : TurnedAway r 413 tooLarge
  /-- Its body is no batch of services. -/
  | body {e : Json.ReadError} (hmethod : r.method = "POST")
      (hpath : r.uri.path = Resource.deployments.path) (hsize : r.body.length ≤ 2097152)
      (hbody : Json.decode Service.readList (.ofBytes r.body) = .error e) :
      TurnedAway r 500 (ApiError.adapter (.internal e.message)).response

/-- A request that is turned away gets a response with the status that is said of it. -/
theorem TurnedAway.status_eq {r : Request} {status : Nat} {response : Response}
    (h : TurnedAway r status response) : response.status = status := by
  cases h with
  | update => exact (by decide : standardStatus 501 = 501)
  | body => exact standardStatus_statusCode .internal
  | _ => rfl

variable {config clock} {r : Request}

/-- At the path of all deployments the method decides, and the body is that of the request. -/
theorem respond_at_deployments (hpath : r.uri.path = Resource.deployments.path) :
    respond config clock r = atDeployments config r.method r.body := by
  unfold respond
  rw [(Resource.ofPath?_eq_some_iff _ .deployments).2 ⟨hpath, trivial⟩]

/-- At the path of one deployment the method decides, and the segment stands for the id. -/
theorem respond_at_deployment {segment : List Char}
    (hpath : r.uri.path = (Resource.deployment segment).path) (hsegment : IsSegment segment) :
    respond config clock r = atDeployment config clock r.method segment := by
  unfold respond
  rw [(Resource.ofPath?_eq_some_iff _ (.deployment segment)).2 ⟨hpath, hsegment⟩]

/-- At the path of the adapter the method decides. -/
theorem respond_at_adapter (hpath : r.uri.path = Resource.adapter.path) :
    respond config clock r = atAdapter config r.method := by
  unfold respond
  rw [(Resource.ofPath?_eq_some_iff _ .adapter).2 ⟨hpath, trivial⟩]

/-- On a request for an operation the operation is carried out. -/
theorem respond_of_asksFor {a : Action} (h : AsksFor config clock r a) :
    respond config clock r = answering a.program success := by
  cases h with
  | list hmethod hpath =>
      rw [respond_at_deployments hpath, hmethod, Action.program, answering_bind_done]
      rfl
  | get hmethod hpath hsegment hid =>
      rw [respond_at_deployment hpath hsegment, hmethod, Action.program, answering_bind_done]
      unfold atDeployment
      rw [hid]
      rfl
  | create hmethod hpath hsize hbody =>
      rw [respond_at_deployments hpath, hmethod, Action.program, answering_bind_done]
      change create config r.body = _
      rw [create, bodyLimit, if_neg (Nat.not_lt.2 hsize), hbody]
      rfl
  | destroy hmethod hpath hsegment hid =>
      rw [respond_at_deployment hpath hsegment, hmethod, Action.program, answering_bind_done]
      unfold atDeployment
      rw [hid]
      rfl
  | info hmethod hpath =>
      rw [respond_at_adapter hpath, hmethod, Action.program, answering_bind_done]
      rfl

/-- A method that the resource does not know is not allowed. -/
theorem respond_of_method_not_mem {place : Resource} (hpath : r.uri.path = place.path)
    (hplace : place.IsPlace) (hmethod : r.method ∉ place.methods) :
    respond config clock r = .done (notAllowed place) := by
  cases place with
  | deployments =>
      rw [respond_at_deployments hpath]
      unfold atDeployments
      split <;> simp_all [Resource.methods]
  | deployment segment =>
      rw [respond_at_deployment hpath hplace]
      unfold atDeployment
      split <;> simp_all [Resource.methods]
  | adapter =>
      rw [respond_at_adapter hpath]
      unfold atAdapter
      split <;> simp_all [Resource.methods]

/-- A request that is turned away makes no call. -/
theorem respond_of_turnedAway {status : Nat} {response : Response}
    (h : TurnedAway r status response) :
    respond config clock r = .done response := by
  cases h with
  | nowhere hpath =>
      have hnone : Resource.ofPath? r.uri.path = none := by
        rw [Option.eq_none_iff_forall_ne_some]
        intro place hplace
        obtain ⟨heq, hplace⟩ := (Resource.ofPath?_eq_some_iff _ _).1 hplace
        exact hpath place hplace heq
      unfold respond
      rw [hnone]
  | method hpath hplace hmethod => exact respond_of_method_not_mem hpath hplace hmethod
  | id hmethod hpath hsegment hid =>
      rw [respond_at_deployment hpath hsegment]
      unfold atDeployment
      rw [hid]
      simp only [List.mem_cons, List.not_mem_nil, or_false] at hmethod
      rcases hmethod with hmethod | hmethod | hmethod <;> rw [hmethod] <;> rfl
  | update hmethod hpath hsegment hid =>
      rw [respond_at_deployment hpath hsegment, hmethod]
      unfold atDeployment
      rw [hid]
      rfl
  | oversized hmethod hpath hsize =>
      rw [respond_at_deployments hpath, hmethod]
      change create config r.body = _
      rw [create, bodyLimit, if_pos hsize]
  | body hmethod hpath hsize hbody =>
      rw [respond_at_deployments hpath, hmethod]
      change create config r.body = _
      rw [create, bodyLimit, if_neg (Nat.not_lt.2 hsize), hbody]

/-- Every request asks for an operation or is turned away, unless it asks for the head alone. -/
theorem asksFor_or_turnedAway (hmethod : r.method ≠ "HEAD") :
    (∃ a, AsksFor config clock r a) ∨ ∃ status response, TurnedAway r status response := by
  cases hplace : Resource.ofPath? r.uri.path with
  | none =>
      refine .inr ⟨_, _, .nowhere fun place hplace' hpath => ?_⟩
      rw [(Resource.ofPath?_eq_some_iff _ _).2 ⟨hpath, hplace'⟩] at hplace
      contradiction
  | some place =>
      obtain ⟨hpath, hplace⟩ := (Resource.ofPath?_eq_some_iff _ _).1 hplace
      by_cases hknown : r.method ∈ place.methods
      · cases place with
        | deployments =>
            simp only [Resource.methods, List.mem_cons, List.not_mem_nil, or_false, hmethod,
              false_or] at hknown
            rcases hknown with hget | hpost
            · exact .inl ⟨_, .list hget hpath⟩
            · by_cases hsize : 2097152 < r.body.length
              · exact .inr ⟨_, _, .oversized hpost hpath hsize⟩
              · have hwithin : r.body.length ≤ 2097152 := Nat.not_lt.1 hsize
                cases hbody : Json.decode Service.readList (.ofBytes r.body) with
                | ok batch => exact .inl ⟨_, .create hpost hpath hwithin hbody⟩
                | error e => exact .inr ⟨_, _, .body hpost hpath hwithin hbody⟩
        | deployment segment =>
            simp only [Resource.methods, List.mem_cons, List.not_mem_nil, or_false, hmethod,
              false_or] at hknown
            cases hid : idOf segment with
            | none =>
                refine .inr ⟨_, _, .id ?_ hpath hplace hid⟩
                rcases hknown with h | h | h <;> simp [h]
            | some id =>
                rcases hknown with hget | hput | hdelete
                · exact .inl ⟨_, .get hget hpath hplace hid⟩
                · exact .inr ⟨_, _, .update hput hpath hplace hid⟩
                · exact .inl ⟨_, .destroy hdelete hpath hplace hid⟩
        | adapter =>
            simp only [Resource.methods, List.mem_cons, List.not_mem_nil, or_false, hmethod,
              or_false] at hknown
            exact .inl ⟨_, .info hknown hpath⟩
      · exact .inr ⟨_, _, .method hpath hplace hknown⟩

end

/-- The request to create the batch that a text describes. -/
def Request.posting (text : String) : Request where
  method := "POST"
  uri := { target := Resource.deployments.path }
  body := text.toUTF8.toList

/-- A text of a batch, posted within the limit, asks for the creation of the batch. -/
theorem asksFor_posting {config : Config} {clock : Clock config.pollInterval.toNanos} {text : String}
    {batch : List Service} (hsize : text.toUTF8.toList.length ≤ 2097152)
    (hbody : Json.decode Service.readList (.ofBytes text.toUTF8.toList) = .ok batch) :
    AsksFor config clock (.posting text) (.create config batch) :=
  .create rfl rfl hsize hbody

/-! ## Requests for the head alone -/

/-- What a request for the head leaves the body of: the request with the method GET. -/
def Request.whole (r : Request) : Request :=
  if r.method = "HEAD" then { r with method := "GET" } else r

namespace Request

variable {r : Request}

theorem whole_of_head (h : r.method = "HEAD") : r.whole = { r with method := "GET" } := if_pos h

theorem whole_of_not_head (h : r.method ≠ "HEAD") : r.whole = r := if_neg h

/-- No request stands for one for the head. -/
theorem method_whole_ne_head (r : Request) : r.whole.method ≠ "HEAD" := by
  by_cases h : r.method = "HEAD"
  · rw [whole_of_head h]
    exact (by decide : "GET" ≠ "HEAD")
  · rwa [whole_of_not_head h]

/-- A request that stands for one with another method than GET stands for itself. -/
theorem whole_of_method (h : r.whole.method ≠ "GET") : r.whole = r := by
  by_cases hhead : r.method = "HEAD"
  · rw [whole_of_head hhead] at h
    contradiction
  · exact whole_of_not_head hhead

end Request

/-- Leaving the body out changes no call. -/
theorem transcript_headOf (handler : Handler σ) (p : Program Response) (s : σ) :
    (headOf p).transcript handler s = p.transcript handler s :=
  transcript_bind_done handler p Response.headOnly s

/-- Leaving the body out changes nothing else of the response. -/
theorem run_headOf (handler : Handler σ) (p : Program Response) (s : σ) :
    (headOf p).run handler s =
      ((p.run handler s).1.map Response.headOnly, (p.run handler s).2) :=
  Prod.ext (run_bind_done_fst handler p Response.headOnly s)
    (run_bind_done_snd handler p Response.headOnly s)

/-! ## The server as a whole -/

section

variable {config : Config} {clock : Clock config.pollInterval.toNanos} {r : Request}

/-- A request for the head is answered as one for the whole, without the body. -/
theorem respond_head (hmethod : r.method = "HEAD") :
    respond config clock r = headOf (respond config clock { r with method := "GET" }) := by
  unfold respond
  rw [hmethod]
  cases Resource.ofPath? r.uri.path with
  | none => rfl
  | some place => cases place <;> rfl

/-- What holds of operations that are answered, and of responses without an operation, and does not
depend on the body, holds of the answer to every request. -/
theorem respond_elim {P : Program Response → Prop}
    (operation : ∀ a, AsksFor config clock r.whole a → P (answering a.program success))
    (away : ∀ status response, TurnedAway r.whole status response → P (.done response))
    (head : ∀ p, P p → P (headOf p)) : P (respond config clock r) := by
  have hwhole : P (respond config clock r.whole) := by
    have hcases : (∃ a, AsksFor config clock r.whole a) ∨
        ∃ status response, TurnedAway r.whole status response :=
      asksFor_or_turnedAway r.method_whole_ne_head
    rcases hcases with ⟨a, ha⟩ | ⟨status, response, haway⟩
    · rw [respond_of_asksFor ha]
      exact operation a ha
    · rw [respond_of_turnedAway haway]
      exact away status response haway
  by_cases hmethod : r.method = "HEAD"
  · rw [respond_head hmethod, ← r.whole_of_head hmethod]
    exact head _ hwhole
  · rwa [Request.whole_of_not_head hmethod] at hwhole

/-- The request may change the objects of the cluster: it creates services or removes a deployment. -/
def Request.MayChange (r : Request) : Prop :=
  (r.method = "POST" ∧ r.uri.path = Resource.deployments.path) ∨
    (r.method = "DELETE" ∧
      ∃ segment, IsSegment segment ∧ r.uri.path = (Resource.deployment segment).path)

/-- All other requests only look at objects. -/
theorem looks_of_not_mayChange (h : ¬ r.MayChange) (handler : Handler σ) (s : σ) :
    ∀ x ∈ (respond config clock r).transcript handler s, x.call.looks := by
  refine respond_elim (P := fun p => ∀ x ∈ p.transcript handler s, x.call.looks)
    (fun a ha => ?_) (fun _ response _ => by simp) (fun p hp => by rwa [transcript_headOf])
  rw [transcript_answering]
  cases ha with
  | list =>
      unfold Action.program
      rw [transcript_bind_done]
      exact looks_of_list handler s
  | get =>
      unfold Action.program
      rw [transcript_bind_done]
      exact looks_of_get handler _ s
  | info =>
      unfold Action.program
      rw [transcript_bind_done]
      exact looks_of_info handler config s
  | create hmethod hpath =>
      have hwhole := Request.whole_of_method (r := r) (by rw [hmethod]; decide)
      rw [hwhole] at hmethod hpath
      exact absurd (.inl ⟨hmethod, hpath⟩) h
  | destroy hmethod hpath hsegment =>
      have hwhole := Request.whole_of_method (r := r) (by rw [hmethod]; decide)
      rw [hwhole] at hmethod hpath
      exact absurd (.inr ⟨hmethod, _, hsegment, hpath⟩) h

/-- The statuses of all responses. -/
def statuses : List Nat := [200, 201, 204, 400, 404, 405, 409, 413, 422, 500, 501]

/-- Every status of a response is a standard one. -/
theorem isStandard_of_mem_statuses : ∀ status ∈ statuses, isStandard status := by decide

/-- The status of every class of errors is one of those. -/
theorem statusCode_mem_statuses (k : ErrorKind) : k.statusCode ∈ statuses := by
  cases k <;> decide

/-- The client learns of an outcome by a response with one of the statuses. -/
theorem Conveys.status_mem_statuses {outcome : Except Failure Answer} {response : Response}
    (h : Conveys outcome (.ok response)) : response.status ∈ statuses := by
  cases h with
  | @result answer _ hreports =>
      cases answer <;> rw [hreports.1] <;> decide
  | @error e _ hreports =>
      rw [hreports.1]
      exact statusCode_mem_statuses e.kind

/-- A response has one of the statuses. -/
theorem status_mem_statuses {handler : Handler σ} {s : σ} {response : Response}
    (h : ((respond config clock r).run handler s).1 = .ok response) : response.status ∈ statuses := by
  revert response
  refine respond_elim
    (P := fun p => ∀ {response}, (p.run handler s).1 = .ok response → response.status ∈ statuses)
    (fun a ha response h => ?_) (fun status fixed haway response h => ?_) (fun p hp response h => ?_)
  · rw [run_answering] at h
    have hconveys := conveys_answered (a.program.run handler s).1
    rw [show answered success (a.program.run handler s).1 = .ok response from h] at hconveys
    exact hconveys.status_mem_statuses
  · obtain rfl := Except.ok.inj h
    rw [haway.status_eq]
    cases haway <;> decide
  · rw [run_headOf] at h
    cases houtcome : (p.run handler s).1 with
    | error e =>
        rw [houtcome] at h
        nomatch h
    | ok whole =>
        rw [houtcome] at h
        obtain rfl : whole.headOnly = response := Except.ok.inj h
        have hstatus : whole.status ∈ statuses := hp houtcome
        exact hstatus

/-- A request is left without response only by a removal whose wait cannot be represented. -/
theorem exists_removal_of_error {handler : Handler σ} {s : σ} {failure : Failure}
    (h : ((respond config clock r).run handler s).1 = .error failure) :
    ∃ removal, AsksFor config clock r (.destroy removal) ∧ ¬ removal.Ends := by
  revert failure
  refine respond_elim
    (P := fun p => ∀ {failure}, (p.run handler s).1 = .error failure →
      ∃ removal, AsksFor config clock r (.destroy removal) ∧ ¬ removal.Ends)
    (fun a ha failure h => ?_) (fun status fixed haway failure h => nomatch h)
    (fun p hp failure h => ?_)
  · rw [run_answering] at h
    cases houtcome : (a.program.run handler s).1 with
    | ok answer =>
        rw [houtcome] at h
        nomatch h
    | error failure =>
        cases failure with
        | error e =>
            rw [houtcome] at h
            nomatch h
        | crash =>
            obtain ⟨removal, rfl, hendless⟩ := exists_removal_of_crash houtcome
            refine ⟨removal, ?_, hendless⟩
            have hmethod : r.whole.method ≠ "GET" := by
              cases ha with
              | destroy hmethod => simp [hmethod]
            rwa [Request.whole_of_method hmethod] at ha
  · rw [run_headOf] at h
    cases houtcome : (p.run handler s).1 with
    | error e => exact hp houtcome
    | ok whole =>
        rw [houtcome] at h
        nomatch h

variable (config clock r)

/-- What the server does on a request, whatever backend is there and in whatever state. -/
structure Fronts : Prop where
  /-- The request asks for an operation or is turned away, unless it asks for the head alone. -/
  cases : r.method ≠ "HEAD" →
    (∃ a, AsksFor config clock r a) ∨ ∃ status response, TurnedAway r status response
  /-- The calls for an operation are those of the operation, they leave the backend as it does, and
  the response conveys its outcome. -/
  operation : ∀ {a : Action}, AsksFor config clock r a → ∀ {σ : Type} (handler : Handler σ) (s : σ),
    (respond config clock r).transcript handler s = a.program.transcript handler s ∧
      ((respond config clock r).run handler s).2 = (a.program.run handler s).2 ∧
      Conveys (a.program.run handler s).1 ((respond config clock r).run handler s).1
  /-- Who is turned away causes no call. -/
  away : ∀ {status : Nat} {response : Response}, TurnedAway r status response →
    respond config clock r = .done response ∧ response.status = status
  /-- A body of two mebibytes at most that is no batch of services is answered with the message of the
  decoder. -/
  undecodable : ∀ {e : Json.ReadError}, r.method = "POST" →
    r.uri.path = Resource.deployments.path → r.body.length ≤ 2097152 →
    Json.decode Service.readList (.ofBytes r.body) = .error e →
    ∃ response, respond config clock r = .done response ∧
      ReportsError (.internal e.message) response
  /-- A request for the head makes the calls of that for the whole, and has its response but for the
  body. -/
  head : r.method = "HEAD" → ∀ {σ : Type} (handler : Handler σ) (s : σ),
    let whole := respond config clock { r with method := "GET" }
    (respond config clock r).transcript handler s = whole.transcript handler s ∧
      (respond config clock r).run handler s =
        ((whole.run handler s).1.map Response.headOnly, (whole.run handler s).2)
  /-- Only creations and removals ask for changes. -/
  looks : ¬ r.MayChange → ∀ {σ : Type} (handler : Handler σ) (s : σ),
    ∀ x ∈ (respond config clock r).transcript handler s, x.call.looks
  /-- Only creations and removals change the controllers and services of a store. -/
  unchanged : ¬ r.MayChange → ∀ s : Store,
    ((respond config clock r).run Store.handle s).2.controllers = s.controllers ∧
      ((respond config clock r).run Store.handle s).2.services = s.services
  /-- Every response has one of the statuses, and a standard one. -/
  status : ∀ {σ : Type} (handler : Handler σ) (s : σ) {response : Response},
    ((respond config clock r).run handler s).1 = .ok response →
      response.status ∈ statuses ∧ isStandard response.status
  /-- Only a removal whose wait cannot be represented is left without response. -/
  answered : ∀ {σ : Type} (handler : Handler σ) (s : σ) {failure : Failure},
    ((respond config clock r).run handler s).1 = .error failure →
      ∃ removal, AsksFor config clock r (.destroy removal) ∧ ¬ removal.Ends

/-- The server is a front of the adapter: for every request. -/
theorem fronts_respond : Fronts config clock r where
  cases := asksFor_or_turnedAway
  operation ha _ handler s := by
    rw [respond_of_asksFor ha, transcript_answering, run_answering]
    exact ⟨rfl, rfl, conveys_answered _⟩
  away haway := ⟨respond_of_turnedAway haway, haway.status_eq⟩
  undecodable hmethod hpath hsize hbody :=
    ⟨_, respond_of_turnedAway (.body hmethod hpath hsize hbody), reportsError_response _⟩
  head hmethod _ handler s := by
    rw [respond_head hmethod]
    exact ⟨transcript_headOf handler _ s, run_headOf handler _ s⟩
  looks h _ handler s := looks_of_not_mayChange h handler s
  unchanged h s := by
    have hlooks : ∀ x ∈ (respond config clock r).transcript Store.handle s, x.call.looks :=
      looks_of_not_mayChange h Store.handle s
    have hsame := sameButPods_run_of_looks hlooks
    exact ⟨hsame.controllers_eq, hsame.services_eq⟩
  status _ _ _ h := ⟨status_mem_statuses h, isStandard_of_mem_statuses _ (status_mem_statuses h)⟩
  answered _ _ _ h := exists_removal_of_error h

end

/-! ### A body beyond the limit -/

/-- The letter x starts no value, so a text that starts with it is no list, whatever follows. -/
theorem decode_letter (read : Json.Reader α) (rest : List UInt8) :
    Json.decode (Json.readList read) (.ofBytes (120 :: rest)) =
      .error ⟨.expectedValue, some ⟨1, 1⟩⟩ :=
  rfl

/-- A request whose body has one byte more than is taken in, each of them the letter x. -/
def oversizedPosting : Request where
  method := "POST"
  uri := { target := Resource.deployments.path }
  body := .replicate 2097153 120

/-- Its body is no batch of services, but it is not answered with the message of the decoder. -/
theorem oversized_not_reported :
    ∃ e, Json.decode Service.readList (.ofBytes oversizedPosting.body) = .error e ∧
      e.message = "expected value at line 1 column 1" ∧
      ∃ response, respond {} (.steady _ 0 0) oversizedPosting = .done response ∧
        response.status = 413 ∧ ¬ ReportsError (.internal e.message) response := by
  have hsize : 2097152 < oversizedPosting.body.length := by
    unfold oversizedPosting
    rw [List.length_replicate]
    decide
  refine ⟨⟨.expectedValue, some ⟨1, 1⟩⟩, ?_, by decide +kernel, tooLarge, ?_, rfl, ?_⟩
  · unfold oversizedPosting
    rw [List.replicate_succ]
    exact decode_letter _ _
  · exact respond_of_turnedAway (.oversized rfl rfl hsize)
  · rintro ⟨hstatus, -⟩
    exact absurd hstatus (by decide)

end Http

end Stevedore
