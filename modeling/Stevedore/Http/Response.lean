import Stevedore.Error
import Stevedore.Json.Record
/-!
# Responses of the server

Main definitions:

- `Http.Response`: status, headers and body.
- `Http.ApiError`: what a request can fail with, and `Http.ApiError.response`.
- `Http.standardStatus`: a status that has a standard meaning.
-/

namespace Stevedore.Http

open Json (Record Member readString always)

/-- A response; a header that is not set is absent. -/
structure Response where
  status : Nat
  contentType : Option String := none
  /-- The methods that a resource knows, separated by commas. -/
  allow : Option String := none
  body : String := ""
deriving DecidableEq, Repr

namespace Response

/-- A response with a JSON body. -/
def json (status : Nat) (body : Json) : Response where
  status := status
  contentType := some "application/json"
  body := body.render

/-- A response with a body of plain text. -/
def text (status : Nat) (body : String) : Response where
  status := status
  contentType := some "text/plain; charset=utf-8"
  body := body

/-- The response without its body. -/
def headOnly (r : Response) : Response := { r with body := "" }

end Response

/-! ## Status codes -/

/-- The status codes with a standard meaning, as ranges with their ends. -/
def standardRanges : List (Nat × Nat) :=
  [(100, 103), (200, 208), (226, 226), (300, 305), (307, 308), (400, 418), (421, 426), (428, 429),
    (431, 431), (451, 451), (500, 508), (510, 511)]

/-- The code has a standard meaning. -/
def isStandard (code : Nat) : Bool :=
  standardRanges.any fun (low, high) => low ≤ code && code ≤ high

/-- The code itself if it has a standard meaning, and otherwise that of a server error. -/
def standardStatus (code : Nat) : Nat := if isStandard code then code else 500

/-! ## Errors -/

/-- Why a request fails. -/
inductive ApiError where
  | adapter (e : Error)
  | notImplemented (message : String)
deriving DecidableEq, Repr

/-- The body of an error response. -/
structure ErrorBody where
  error : String
  message : String
deriving DecidableEq, Repr, Inhabited

namespace ErrorBody

/-- The JSON of the body of an error response. -/
def toJson (b : ErrorBody) : Json :=
  .ofMembers [always "error" (.string b.error), always "message" (.string b.message)]

/-- How the body of an error response is read; both members have to be there. -/
def record : Record ErrorBody where
  title := "struct ErrorResponse"
  initial := default
  members := [
    .mandatory "error" readString fun v b => { b with error := v },
    .mandatory "message" readString fun v b => { b with message := v }]

end ErrorBody

namespace ApiError

/-- The status that an error asks for. -/
def statusCode : ApiError → Nat
  | adapter e => e.kind.statusCode
  | notImplemented _ => 501

/-- What the body of the response says of an error. -/
def body : ApiError → ErrorBody
  | adapter e => ⟨e.kind.identifier, e.message⟩
  | notImplemented m => ⟨"not_implemented", m⟩

/-- The text of an error. -/
def text : ApiError → String
  | adapter e => e.text
  | notImplemented m => "Not implemented: " ++ m

/-- The response to a request that fails: a JSON body with a standard status. -/
def response (e : ApiError) : Response := .json (standardStatus e.statusCode) e.body.toJson

end ApiError

end Stevedore.Http
