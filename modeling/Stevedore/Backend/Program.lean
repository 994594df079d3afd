import Stevedore.Backend.Call
/-!
# Programs over a backend

An operation of the adapter is a program: it makes a call, waits for the answer and goes on, until
it is done or fails. What it does is thereby fixed for every backend and every answer.

Main definitions:

- `Program`: with its monad.
- `Program.run`: a program on a backend.
- `Program.forEach`: a program for each item of a list in turn.
- `Program.attempt`: turns an error into a value.
-/

namespace Stevedore

open Backend Cluster

/-- How a program ends without a result: with an error for its caller, or without any answer. -/
inductive Failure where
  | error (e : Error)
  | crash
deriving DecidableEq, Repr

/-- A program that makes calls one after the other. -/
inductive Program (α : Type) where
  | done (value : α)
  | fail (failure : Failure)
  | call (call : Call) (next : call.Reply → Program α)

namespace Program

/-- Goes on with another program when this one is done. -/
def bind : Program α → (α → Program β) → Program β
  | done a, f => f a
  | fail e, _ => fail e
  | call c next, f => call c fun reply => (next reply).bind f

instance : Monad Program where
  pure := done
  bind := bind

@[simp] theorem pure_eq (a : α) : (pure a : Program α) = done a := rfl

@[simp] theorem done_bind (a : α) (f : α → Program β) : (done a >>= f) = f a := rfl

@[simp] theorem fail_bind (e : Failure) (f : α → Program β) : (fail e >>= f) = fail e := rfl

@[simp] theorem call_bind (c : Call) (next : c.Reply → Program α) (f : α → Program β) :
    (call c next >>= f) = call c fun reply => next reply >>= f := rfl

/-- The order in which programs are put together does not matter. -/
theorem bind_assoc (p : Program α) (f : α → Program β) (g : β → Program γ) :
    ((p >>= f) >>= g) = (p >>= fun a => f a >>= g) := by
  induction p with
  | done a => rfl
  | fail e => rfl
  | call c next ih => simp [ih]

/-! ## Calls -/

/-- The value of an answer; a failed call ends the program with its error. -/
def ofReply : Except BackendError α → Program α
  | .ok a => done a
  | .error e => fail (.error e.toError)

/-- Lists all controllers. -/
def listControllers : Program (List Controller) := call .listControllers ofReply

/-- Fetches the controller with a name. -/
def getController (name : String) : Program Controller := call (.getController name) ofReply

/-- Creates a controller. -/
def createController (controller : Controller) : Program Controller :=
  call (.createController controller) ofReply

/-- Replaces the controller of the same name. -/
def updateController (controller : Controller) : Program Controller :=
  call (.updateController controller) ofReply

/-- Deletes the controller with a name. -/
def deleteController (name : String) : Program Unit := call (.deleteController name) ofReply

/-- Lists the pods that a selector selects. -/
def listPods (selector : Selector) : Program (List Pod) := call (.listPods selector) ofReply

/-- Creates a network service. -/
def createService (service : NetworkService) : Program NetworkService :=
  call (.createService service) ofReply

/-- Lists the network services that a selector selects. -/
def listServices (selector : Selector) : Program (List NetworkService) :=
  call (.listServices selector) ofReply

/-- Deletes the network service with a name. -/
def deleteService (name : String) : Program Unit := call (.deleteService name) ofReply

/-- Asks whether the backend is healthy, which does not fail. -/
def health : Program Bool := call .health done

/-! ## Sequences -/

/-- Runs a program for each item in turn and collects the results. -/
def forEach (items : List α) (body : α → Program β) : Program (List β) :=
  match items with
  | [] => done []
  | a :: rest => body a >>= fun b => forEach rest body >>= fun bs => done (b :: bs)

/-- An error of a program as a value; a crash remains one. -/
def attempt : Program α → Program (Except Error α)
  | done a => done (.ok a)
  | fail (.error e) => done (.error e)
  | fail .crash => fail .crash
  | call c next => call c fun reply => (next reply).attempt

/-! ## Runs -/

/-- Runs a program on a backend. -/
def run (handler : Handler σ) : Program α → σ → Except Failure α × σ
  | done a, s => (.ok a, s)
  | fail e, s => (.error e, s)
  | call c next, s => (next (handler c s).1).run handler (handler c s).2

/-- A program that is done leaves the backend as it was. -/
@[simp] theorem run_done (handler : Handler σ) (a : α) (s : σ) :
    (done a).run handler s = (.ok a, s) := rfl

/-- A program that has failed leaves the backend as it was. -/
@[simp] theorem run_fail (handler : Handler σ) (e : Failure) (s : σ) :
    (fail e : Program α).run handler s = (.error e, s) := rfl

/-- A call is answered by the handler, and the rest runs on what it leaves. -/
@[simp] theorem run_call (handler : Handler σ) (c : Call) (next : c.Reply → Program α) (s : σ) :
    (call c next).run handler s = (next (handler c s).1).run handler (handler c s).2 := rfl

/-- A sequence runs its second part where the first one left the backend. -/
theorem run_bind (handler : Handler σ) (p : Program α) (f : α → Program β) (s : σ) :
    (p >>= f).run handler s =
      match p.run handler s with
      | (.ok a, s) => (f a).run handler s
      | (.error e, s) => (.error e, s) := by
  induction p generalizing s with
  | done a => rfl
  | fail e => rfl
  | call c next ih => simp [ih]

end Program

end Stevedore
