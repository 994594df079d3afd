import Stevedore.Backend.Call
/-!
# A backend in memory

Keeps the objects of a cluster in lists, in the order of their creation. Single calls can be made to
fail, and pods can be made to disappear after some listings.

Main definitions:

- `Backend.Store`: the state, and `Backend.Store.handle` its answers.
- `Backend.Journal`: a store that notes every call, and `Backend.Journal.handle`.
-/

namespace Stevedore.Backend

open Cluster

/-- The calls without their arguments; the health question is not among them. -/
inductive Operation where
  | listControllers
  | getController
  | createController
  | updateController
  | deleteController
  | listPods
  | createService
  | listServices
  | deleteService
deriving DecidableEq, Repr

/-- The operation that a call asks for. -/
def Call.operation? : Call → Option Operation
  | .listControllers => some .listControllers
  | .getController _ => some .getController
  | .createController _ => some .createController
  | .updateController _ => some .updateController
  | .deleteController _ => some .deleteController
  | .listPods _ => some .listPods
  | .createService _ => some .createService
  | .listServices _ => some .listServices
  | .deleteService _ => some .deleteService
  | .health => none

/-- The objects of a cluster. -/
structure Store where
  controllers : List Controller := []
  services : List NetworkService := []
  pods : List Pod := []
  /-- How many more listings show the pods before they are gone; absent they stay. -/
  listingsLeft : Option Nat := none
  /-- The operations that fail, and how. -/
  errors : Operation → Option BackendError := fun _ => none
  healthy : Bool := true

namespace Store

/-! ## Messages -/

/-- A name in double quotes. -/
def inQuotes (name : String) : String := "\"" ++ name ++ "\""

/-- No controller with the name is stored. -/
def controllerNotFound (name : String) : BackendError :=
  .notFound ("replicationcontrollers " ++ inQuotes name ++ " not found")

/-- A controller with the name is stored already. -/
def controllerExists (name : String) : BackendError :=
  .alreadyExists ("replicationcontrollers " ++ inQuotes name ++ " already exists")

/-- A network service with the name is stored already. -/
def serviceExists (name : String) : BackendError :=
  .alreadyExists ("services " ++ inQuotes name ++ " already exists")

/-! ## Controllers -/

/-- The stored controller with a name. -/
def controller? (s : Store) (name : String) : Option Controller :=
  s.controllers.find? fun c => c.metadata.name == some name

/-- The stored network service with a name. -/
def service? (s : Store) (name : String) : Option NetworkService :=
  s.services.find? fun v => v.metadata.name == some name

/-- Fetches the first stored controller with a name. -/
def getController (s : Store) (name : String) : Except BackendError Controller × Store :=
  match s.controller? name with
  | some c => (.ok c, s)
  | none => (.error (controllerNotFound name), s)

/-- Stores a controller with no pods observed, unless its name is taken. -/
def createController (s : Store) (c : Controller) : Except BackendError Controller × Store :=
  if (s.controller? c.nameOrEmpty).isSome then (.error (controllerExists c.nameOrEmpty), s)
  else (.ok (c.observing 0), { s with controllers := s.controllers ++ [c.observing 0] })

/-- Puts a controller in place of the first one with a name. -/
def replaceFirst (name : String) (new : Controller) : List Controller → List Controller
  | [] => []
  | c :: rest =>
    if c.metadata.name = some name then new :: rest else c :: replaceFirst name new rest

/-- Replaces the stored controller of the same name. -/
def updateController (s : Store) (c : Controller) : Except BackendError Controller × Store :=
  if (s.controller? c.nameOrEmpty).isSome then
    (.ok c, { s with controllers := replaceFirst c.nameOrEmpty c s.controllers })
  else (.error (controllerNotFound c.nameOrEmpty), s)

/-- Removes the controller with a name. -/
def deleteController (s : Store) (name : String) : Except BackendError Unit × Store :=
  if (s.controller? name).isSome then
    (.ok (), { s with controllers := s.controllers.filter fun c => c.metadata.name != some name })
  else (.error (controllerNotFound name), s)

/-! ## Pods -/

/-- Lists the pods that a selector selects. With no listings left the pods are gone. -/
def listPods (s : Store) (selector : Selector) : Except BackendError (List Pod) × Store :=
  let selected := s.pods.filter fun p => selector.selects p.metadata.labels
  match s.listingsLeft with
  | none => (.ok selected, s)
  | some 0 => (.ok [], { s with pods := [] })
  | some (n + 1) => (.ok selected, { s with listingsLeft := some n })

/-! ## Network services -/

/-- Stores a network service, unless its name is taken. -/
def createService (s : Store) (v : NetworkService) : Except BackendError NetworkService × Store :=
  if (s.service? v.nameOrEmpty).isSome then (.error (serviceExists v.nameOrEmpty), s)
  else (.ok v, { s with services := s.services ++ [v] })

/-- Lists the network services that a selector selects, in the order in which they were stored. -/
def listServices (s : Store) (selector : Selector) :
    Except BackendError (List NetworkService) × Store :=
  (.ok (s.services.filter fun v => selector.selects v.metadata.labels), s)

/-- Removes the network services with a name; that there is none is no failure. -/
def deleteService (s : Store) (name : String) : Except BackendError Unit × Store :=
  (.ok (), { s with services := s.services.filter fun v => v.metadata.name != some name })

/-! ## Answers -/

/-- Answers a call of which no failure is asked. -/
def answer : Handler Store
  | .listControllers, s => (.ok s.controllers, s)
  | .getController name, s => s.getController name
  | .createController c, s => s.createController c
  | .updateController c, s => s.updateController c
  | .deleteController name, s => s.deleteController name
  | .listPods selector, s => s.listPods selector
  | .createService v, s => s.createService v
  | .listServices selector, s => s.listServices selector
  | .deleteService name, s => s.deleteService name
  | .health, s => (s.healthy, s)

/-- Answers a call. A call that is made to fail changes nothing. -/
def handle : Handler Store := fun call s =>
  match call.operation?.bind s.errors with
  | some e => (call.failed e, s)
  | none => answer call s

end Store

/-! ## Noting the calls -/

/-- A call as it was seen: for the deletion of a controller with the number of pods that the stored
controller asked for. -/
structure Sighting where
  call : Call
  stored : Option Int32 := none
deriving DecidableEq, Repr

/-- How a call is noted. -/
def Store.sighting (s : Store) : Call → Sighting
  | .deleteController name => ⟨.deleteController name, (s.controller? name).bind (·.desired?)⟩
  | call => ⟨call, none⟩

/-- A store with the calls that were made to it, in order. -/
structure Journal where
  store : Store
  calls : List Sighting := []

/-- Notes a call and answers it. -/
def Journal.handle : Handler Journal := fun call j =>
  let (reply, store) := Store.handle call j.store
  (reply, ⟨store, j.calls ++ [j.store.sighting call]⟩)

end Stevedore.Backend
