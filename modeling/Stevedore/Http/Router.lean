import Stevedore.Adapter
import Stevedore.Http.Response
import Stevedore.Service.Json
import Stevedore.Text.Percent
import Stevedore.Text.Pieces
import Stevedore.Uri
/-!
# Requests to the server

The path of a request, as it stands in the URI, leads to one of three resources; the method chooses
the operation on it.

Main definitions:

- `Http.Request`: a request.
- `Http.Resource`, `Http.Resource.ofPath?`: the resources and their paths.
- `Http.respond`: the program that answers a request.
-/

namespace Stevedore.Http

/-- A request. -/
structure Request where
  method : String
  uri : Uri
  body : List UInt8 := []

/-! ## Resources -/

/-- What a path leads to. -/
inductive Resource where
  /-- All deployments. -/
  | deployments
  /-- One deployment, by its id as it is written in the path. -/
  | deployment (segment : List Char)
  /-- The adapter. -/
  | adapter
deriving DecidableEq, Repr

/-- The resource at a path. -/
def Resource.ofPath? (path : List Char) : Option Resource :=
  match (Text.pieces '/' path) with
  | [[], version, name] =>
    if version ≠ "v1".toList then none
    else if name = "services".toList then some .deployments
    else if name = "metadata".toList then some .adapter
    else none
  | [[], version, name, segment] =>
    if version = "v1".toList ∧ name = "services".toList ∧ segment ≠ [] then
      some (.deployment segment)
    else none
  | _ => none

/-- The methods that a resource knows. -/
def Resource.methods : Resource → List String
  | .deployments => ["GET", "HEAD", "POST"]
  | .deployment _ => ["GET", "HEAD", "PUT", "DELETE"]
  | .adapter => ["GET", "HEAD"]

/-- The id that a segment of a path stands for, if its bytes are UTF-8. -/
def idOf (segment : List Char) : Option String :=
  String.fromUTF8? (Text.percentDecode (String.ofList segment).toUTF8.toList).toByteArray

/-! ## Fixed answers -/

/-- There is nothing at the path. -/
def notFound : Response := { status := 404 }

/-- The resource does not know the method. -/
def notAllowed (r : Resource) : Response :=
  { status := 405, allow := some (",".intercalate r.methods) }

/-- The id in the path is no text. -/
def badId : Response := .text 400 "Invalid URL: Invalid UTF-8 in `id`"

/-- How many bytes of a body are taken in. -/
def bodyLimit : Nat := 2097152

/-- The body is longer than the limit. -/
def tooLarge : Response := .text 413 "Failed to buffer the request body: length limit exceeded"

/-! ## Operations -/

/-- Answers with the response to the result of an operation, or to its error. -/
def answering (operation : Program α) (response : α → Response) : Program Response := do
  match ← operation.attempt with
  | .ok a => return response a
  | .error e => return (ApiError.adapter e).response

/-- Lists all deployments. -/
def list : Program Response :=
  answering Adapter.list fun records => .json 200 (.list DeploymentRecord.toJson records)

/-- Shows one deployment. -/
def get (id : String) : Program Response :=
  answering (Adapter.get id) fun record => .json 200 record.toJson

/-- Creates the batch of services in a body. A body beyond the limit is not looked at. -/
def create (config : Config) (body : List UInt8) : Program Response :=
  if bodyLimit < body.length then .done tooLarge
  else
    match Json.decode Service.readList (.ofBytes body) with
    | .error e => .done (ApiError.adapter (.internal e.message)).response
    | .ok batch =>
      answering (Adapter.create config batch) fun records =>
        .json 201 (.list DeploymentRecord.toJson records)

/-- Deployments cannot be updated. -/
def update (id : String) : Program Response :=
  .done (ApiError.notImplemented ("updating service '" ++ id ++ "' is not supported")).response

/-- Removes one deployment. -/
def destroy (config : Config) (clock : Clock config.pollInterval.toNanos) (id : String) :
    Program Response :=
  answering (Adapter.destroy config clock id) fun _ => { status := 204 }

/-- Shows what the adapter says about itself. -/
def info (config : Config) : Program Response :=
  answering (Adapter.info config) fun info => .json 200 info.toJson

/-! ## Routing -/

/-- Answers without the body, as a request for the head asks. -/
def headOf (p : Program Response) : Program Response := do
  let r ← p
  return r.headOnly

/-- Answers a request for all deployments. -/
def atDeployments (config : Config) (method : String) (body : List UInt8) : Program Response :=
  match method with
  | "GET" => list
  | "HEAD" => headOf list
  | "POST" => create config body
  | _ => .done (notAllowed .deployments)

/-- Answers a request for one deployment. -/
def atDeployment (config : Config) (clock : Clock config.pollInterval.toNanos) (method : String)
    (segment : List Char) : Program Response :=
  let withId (operation : String → Program Response) : Program Response :=
    match idOf segment with
    | some id => operation id
    | none => .done badId
  match method with
  | "GET" => withId get
  | "HEAD" => headOf (withId get)
  | "PUT" => withId update
  | "DELETE" => withId (destroy config clock)
  | _ => .done (notAllowed (.deployment segment))

/-- Answers a request for the adapter. -/
def atAdapter (config : Config) (method : String) : Program Response :=
  match method with
  | "GET" => info config
  | "HEAD" => headOf (info config)
  | _ => .done (notAllowed .adapter)

/-- Answers a request. -/
def respond (config : Config) (clock : Clock config.pollInterval.toNanos) (r : Request) :
    Program Response :=
  match Resource.ofPath? r.uri.path with
  | some .deployments => atDeployments config r.method r.body
  | some (.deployment segment) => atDeployment config clock r.method segment
  | some .adapter => atAdapter config r.method
  | none => .done notFound

end Stevedore.Http
