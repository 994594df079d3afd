import Stevedore.Cluster.Object
import Stevedore.Error
/-!
# Calls to a backend

Everything the adapter asks of a cluster is one of ten calls. A backend is whatever answers them.

Main definitions:

- `Backend.Call`: the calls, and `Backend.Call.Reply` the type of answers to each.
- `Backend.Handler`: a backend as a state that every call may change.
-/

namespace Stevedore.Backend

open Cluster

/-- A call to a backend. -/
inductive Call where
  | listControllers
  | getController (name : String)
  | createController (controller : Controller)
  | updateController (controller : Controller)
  | deleteController (name : String)
  | listPods (selector : Selector)
  | createService (service : NetworkService)
  | listServices (selector : Selector)
  | deleteService (name : String)
  | health
deriving DecidableEq, Repr

/-- The answers to a call. Only the question after its health cannot fail a backend. -/
def Call.Reply : Call → Type
  | .listControllers => Except BackendError (List Controller)
  | .getController _ => Except BackendError Controller
  | .createController _ => Except BackendError Controller
  | .updateController _ => Except BackendError Controller
  | .deleteController _ => Except BackendError Unit
  | .listPods _ => Except BackendError (List Pod)
  | .createService _ => Except BackendError NetworkService
  | .listServices _ => Except BackendError (List NetworkService)
  | .deleteService _ => Except BackendError Unit
  | .health => Bool

/-- The answer that a call failed. A backend that fails is not healthy. -/
def Call.failed (e : BackendError) : (call : Call) → call.Reply
  | .listControllers => .error e
  | .getController _ => .error e
  | .createController _ => .error e
  | .updateController _ => .error e
  | .deleteController _ => .error e
  | .listPods _ => .error e
  | .createService _ => .error e
  | .listServices _ => .error e
  | .deleteService _ => .error e
  | .health => false

/-- A backend: answers a call and goes on to another state. -/
abbrev Handler (σ : Type) := (call : Call) → σ → call.Reply × σ

end Stevedore.Backend
