import Stevedore.Json.Read
/-!
# Errors

A backend reports why a call failed in three classes; each failure is classified once more for the
caller. The message is carried verbatim throughout.

Main definitions:

- `BackendError`: what a backend reports.
- `Error`: what an operation reports, and `BackendError.toError` between the two.
- `ErrorKind`: the class of an error, with its HTTP status and its short name.
-/

namespace Stevedore

/-- Why a call to the backend failed. -/
inductive BackendError where
  | notFound (message : String)
  | alreadyExists (message : String)
  | other (message : String)
deriving DecidableEq, Repr

/-- Why an operation failed. -/
inductive Error where
  | notFound (message : String)
  | conflict (message : String)
  | validation (message : String)
  | config (message : String)
  | internal (message : String)
deriving DecidableEq, Repr

/-- The class of an error. -/
inductive ErrorKind where
  | notFound
  | conflict
  | validation
  | internal
deriving DecidableEq, Repr

namespace BackendError

/-- What the backend says about the failure. -/
def message : BackendError → String
  | notFound m | alreadyExists m | other m => m

/-- The error that a caller is told of. -/
def toError : BackendError → Error
  | notFound m => .notFound m
  | alreadyExists m => .conflict m
  | other m => .internal m

end BackendError

namespace ErrorKind

/-- The HTTP status of the class. -/
def statusCode : ErrorKind → Nat
  | notFound => 404
  | conflict => 409
  | validation => 422
  | internal => 500

/-- The short name in the body of an error response. -/
def identifier : ErrorKind → String
  | notFound => "not_found"
  | conflict => "conflict"
  | validation => "validation_error"
  | internal => "internal_error"

/-- The name in JSON. -/
def jsonName : ErrorKind → String
  | notFound => "not_found"
  | conflict => "conflict"
  | validation => "validation"
  | internal => "internal"

/-- The class of an error as its name in JSON. -/
def toJson (k : ErrorKind) : Json := .string k.jsonName

/-- How a class is read: by one of the four names. -/
def read : Json.Reader ErrorKind :=
  Json.readVariant ([notFound, conflict, validation, internal].map fun k => (k.jsonName, .bare k))

end ErrorKind

namespace Error

/-- What is said about the failure. -/
def message : Error → String
  | notFound m | conflict m | validation m | config m | internal m => m

/-- The class of an error; a faulty configuration counts as an internal error. -/
def kind : Error → ErrorKind
  | notFound _ => .notFound
  | conflict _ => .conflict
  | validation _ => .validation
  | config _ | internal _ => .internal

/-- The text of an error: its message, after a prefix if the configuration is at fault. -/
def text : Error → String
  | config m => "configuration error: " ++ m
  | e => e.message

end Error

/-- What a caller is told of each class: what is not found, what exists already as a conflict, and
anything else as an internal error, with the message of the backend. -/
theorem BackendError.toError_cases (e : BackendError) :
    (e = .notFound e.message ∧ e.toError = .notFound e.message) ∨
      (e = .alreadyExists e.message ∧ e.toError = .conflict e.message) ∨
      (e = .other e.message ∧ e.toError = .internal e.message) := by
  cases e with
  | notFound m => exact .inl ⟨rfl, rfl⟩
  | alreadyExists m => exact .inr (.inl ⟨rfl, rfl⟩)
  | other m => exact .inr (.inr ⟨rfl, rfl⟩)

/-- The message is that of the backend. -/
@[simp] theorem BackendError.message_toError (e : BackendError) :
    e.toError.message = e.message := by
  cases e <;> rfl

end Stevedore
