import Stevedore.Backend.Call
import Stevedore.Cluster.Json
import Stevedore.Text.Percent
import Stevedore.Uri
/-!
# A backend behind the API of a cluster

Each call is one request to the API server, and its answer is read from the response.

Main definitions:

- `Api.Request`, `Api.Response`: what goes over the wire.
- `Api.request`: the request of a call, if one can be made.
- `Api.reply`: the answer that a response gives to a call.
- `Api.Script`: a connection whose responses are given beforehand, and `Api.Script.handle`.
-/

namespace Stevedore.Api

open Backend Cluster

/-! ## Requests -/

/-- The methods of requests. -/
inductive Method where
  | get
  | post
  | put
  | delete
deriving DecidableEq, Repr

/-- The method as it is written in a request. -/
def Method.text : Method → String
  | .get => "GET"
  | .post => "POST"
  | .put => "PUT"
  | .delete => "DELETE"

/-- A request; the body is absent when nothing is sent. -/
structure Request where
  method : Method
  uri : String
  body : Option Json := none

/-- Why no request can be made. -/
inductive Obstacle where
  /-- A controller without a name cannot be replaced. -/
  | namelessController
  /-- An object is addressed by a name that is not empty. -/
  | emptyName
  /-- Names go into the URI as they are, and this one does not fit. -/
  | badUri (fault : Uri.Fault)
deriving DecidableEq, Repr

/-- What an operation reports of the obstacle. -/
def Obstacle.message : Obstacle → String
  | .namelessController => "replication controller has no name"
  | .emptyName =>
    "Failed to build request: failed to validate request: A non-empty name is required"
  | .badUri fault => "Failed to build request: failed to build request: " ++ fault.message

/-- The kinds of objects that are addressed. -/
inductive Resource where
  | controllers
  | services
  | pods
deriving DecidableEq, Repr

/-- The objects of a kind as a path names them. -/
def Resource.plural : Resource → String
  | .controllers => "replicationcontrollers"
  | .services => "services"
  | .pods => "pods"

/-- The path of all objects of a kind in a namespace of the cluster. -/
def collection (clusterNamespace : String) (r : Resource) : String :=
  "/api/v1/namespaces/" ++ clusterNamespace ++ "/" ++ r.plural

/-- A request to a target, which is cut off at a fragment. -/
def requestTo (method : Method) (target : String) (body : Option Json := none) :
    Except Obstacle Request :=
  match Uri.parse target with
  | .error fault => .error (.badUri fault)
  | .ok uri => .ok { method, uri := String.ofList uri.target, body }

/-- The query that asks for labels. -/
def labelQuery (s : Selector) : String :=
  if s.isEmpty then "" else "&labelSelector=" ++ Text.formEncode s.text

/-- Lists the objects that a selector selects. -/
def listRequest (path : String) (selector : Selector) : Except Obstacle Request :=
  requestTo .get (path ++ "?" ++ labelQuery selector)

/-- Stores a new object. -/
def createRequest (path : String) (object : Json) : Except Obstacle Request :=
  requestTo .post (path ++ "?") (some object)

/-- A request for the object with a name. -/
def namedRequest (method : Method) (path name suffix : String) (body : Option Json := none) :
    Except Obstacle Request :=
  if name.isEmpty then .error .emptyName else requestTo method (path ++ "/" ++ name ++ suffix) body

/-- Removes the object with a name. -/
def deleteRequest (path name : String) : Except Obstacle Request :=
  namedRequest .delete path name "?" (some (.object []))

/-- The request of a call. -/
def request (clusterNamespace : String) : Call → Except Obstacle Request
  | .listControllers => listRequest (collection clusterNamespace .controllers) .everything
  | .getController name => namedRequest .get (collection clusterNamespace .controllers) name ""
  | .createController c => createRequest (collection clusterNamespace .controllers) c.toJson
  | .updateController c =>
    match c.metadata.name with
    | none => .error .namelessController
    | some name =>
      namedRequest .put (collection clusterNamespace .controllers) name "?" (some c.toJson)
  | .deleteController name => deleteRequest (collection clusterNamespace .controllers) name
  | .listPods selector => listRequest (collection clusterNamespace .pods) selector
  | .createService s => createRequest (collection clusterNamespace .services) s.toJson
  | .listServices selector => listRequest (collection clusterNamespace .services) selector
  | .deleteService name => deleteRequest (collection clusterNamespace .services) name
  | .health => requestTo .get "/api/v1/nodes?&limit=1"

/-! ## Responses -/

/-- A response of the server, or the loss of the connection. -/
inductive Response where
  | received (status : Nat) (body : String)
  | lost (message : String)
deriving DecidableEq, Repr

/-- An error that the server describes. -/
structure ServerError where
  status : String
  message : String := ""
  reason : String := ""
  code : Nat
deriving DecidableEq, Repr

namespace ServerError

/-- How the description of an error is read; two of its members have to be there. -/
def record : Json.Record ServerError where
  title := "struct ErrorResponse"
  initial := { status := "", code := 0 }
  members := [
    .mandatory "status" Json.readString fun v e => { e with status := v },
    .optional "message" Json.readString fun v e => { e with message := v },
    .optional "reason" Json.readString fun v e => { e with reason := v },
    .mandatory "code" Json.readUInt16 fun v e => { e with code := v.toNat }]

/-- The error in the body of a failed request. A body that describes none is itself the message. -/
def ofBody (status : Nat) (body : String) : ServerError :=
  match Json.decodeString record.read body with
  | .ok e => e
  | .error _ =>
    { status := Decimal.ofNat status, message := Text.quoted body,
      reason := "Failed to parse error data", code := status }

/-- The class of an error. -/
def toBackendError (e : ServerError) : BackendError :=
  if e.reason = "NotFound" ∨ e.code = 404 then .notFound e.message
  else if e.reason = "AlreadyExists" then .alreadyExists e.message
  else .other e.message

end ServerError

/-- The status says that the request failed. -/
def isFailure (status : Nat) : Bool := 400 ≤ status && status < 600

/-- What a response holds, read from its body. -/
def readResponse (decode : String → Except Json.ReadError α) : Response → Except BackendError α
  | .lost message => .error (.other ("ServiceError: " ++ message))
  | .received status body =>
    if isFailure status then .error (ServerError.ofBody status body).toBackendError
    else
      match decode body with
      | .ok a => .ok a
      | .error e => .error (.other ("Error deserializing response: " ++ e.message))

/-- Reads an object. -/
def readObject (read : Json.Reader α) : Response → Except BackendError α :=
  readResponse (Json.decodeString read)

/-- Reads the items of a list of objects. -/
def readListing (read : Json.Reader α) : Response → Except BackendError (List α) :=
  readObject (listing read).read

/-! ### Deletions -/

/-- One cause in the details of a status. -/
def statusCause : Json.Record Unit where
  title := "struct StatusCause"
  initial := ()
  members := ["reason", "message", "field"].map fun key =>
    .optional key Json.readString fun _ u => u

/-- The details of a status. -/
def statusDetails : Json.Record Unit where
  title := "struct StatusDetails"
  initial := ()
  members := (["name", "group", "kind", "uid"].map fun key =>
      .optional key Json.readString fun _ u => u) ++ [
    .optional "causes" (Json.readList statusCause.read) fun _ u => u,
    .optional "retryAfterSeconds" (Json.readInteger "u32" 0 4294967295) fun _ u => u]

/-- The outcome that a status reports. -/
def statusSummary : Json.Reader Unit :=
  Json.readVariant [("Success", .bare ()), ("Failure", .bare ())]

/-- The report on an operation. -/
def statusReport : Json.Record Unit where
  title := "struct Status"
  initial := ()
  members := [
    .optional "status" (Json.readOptional statusSummary) fun _ u => u,
    .optional "code" Json.readUInt16 fun _ u => u,
    .optional "message" Json.readString fun _ u => u,
    .optional "reason" Json.readString fun _ u => u,
    .optional "details" (Json.readOptional statusDetails.read) fun _ u => u]

/-- The value says that it is a status. -/
def isStatus (j : Json) : Bool :=
  match j.member? "kind" with
  | some (.string kind) => kind == "Status"
  | _ => false

/-- Reads the body that confirms a deletion: a status, or the object that was deleted. -/
def decodeDeletion (read : Json.Reader α) (body : String) : Except Json.ReadError Unit :=
  match Json.parse body with
  | .error e => .error e
  | .ok j =>
    if isStatus j then Json.decodeString statusReport.read body
    else Json.decodeString (read.map fun _ => ()) body

/-- Reads the confirmation of a deletion. -/
def readDeletion (read : Json.Reader α) : Response → Except BackendError Unit :=
  readResponse (decodeDeletion read)

/-! ### Answers -/

/-- The answer that a response gives to a call. -/
def reply (response : Response) : (call : Call) → call.Reply
  | .listControllers => readListing Controller.record.read response
  | .getController _ => readObject Controller.record.read response
  | .createController _ => readObject Controller.record.read response
  | .updateController _ => readObject Controller.record.read response
  | .deleteController _ => readDeletion Controller.record.read response
  | .listPods _ => readListing Pod.record.read response
  | .createService _ => readObject NetworkService.record.read response
  | .listServices _ => readListing NetworkService.record.read response
  | .deleteService _ => readDeletion NetworkService.record.read response
  | .health =>
    match readListing Node.record.read response with
    | .ok _ => true
    | .error _ => false

/-! ## Scripted connections -/

/-- A connection with the responses that are still to come and the requests that were sent. -/
structure Script where
  responses : List Response
  sent : List Request := []

namespace Script

/-- Sends a request and takes the next response; with none left the connection is lost. -/
def exchange (request : Request) (s : Script) : Response × Script :=
  match s.responses with
  | [] => (.lost "no scripted response", { s with sent := s.sent ++ [request] })
  | r :: rest => (r, ⟨rest, s.sent ++ [request]⟩)

/-- Answers a call over the connection. A call without a request fails at once. -/
def handle (clusterNamespace : String) : Handler Script := fun call s =>
  match request clusterNamespace call with
  | .error o => (call.failed (.other o.message), s)
  | .ok r =>
    let (response, s) := s.exchange r
    (reply response call, s)

end Script

end Stevedore.Api
