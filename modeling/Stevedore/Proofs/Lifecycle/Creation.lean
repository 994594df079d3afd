import Stevedore.Lifecycle
import Stevedore.Proofs.Transcript
/-!
# The calls that create a batch

A batch that the resolver accepts is created by a sequence of calls that its network services, its
services and the answers to earlier calls determine. On any backend a run makes all of them, or it
makes them up to the first one that fails.

Main results:

- Theorem `succeeds_create`: the full runs, call by call, with the records they return.
- Theorem `create_sequence`: every run on every backend.
-/

namespace Stevedore

open Backend Cluster Program

/-- The workload of a service as it is stored at first: no pods of it were observed. -/
def Workload.unobserved (b : Service) : Controller :=
  { Workload.controller b with status := some { replicas := 0 } }

/-- It has the name of the workload. -/
@[simp] theorem Workload.name_unobserved (b : Service) :
    (Workload.unobserved b).metadata.name = some (Name.sanitize b.name) := rfl

/-- It is what the backend in memory makes of the workload. -/
@[simp] theorem Workload.observing_controller (b : Service) :
    (Workload.controller b).observing 0 = Workload.unobserved b := rfl

namespace Lifecycle

/-! ## The calls of a full run -/

/-- Storing the network services, with what the backend answers to each. -/
def exposures (services stored : List NetworkService) : List Exchange :=
  List.zipWith (fun v answer => ⟨.createService v, .ok answer⟩) services stored

/-- Creating the workload of a service. The backend answers with a controller, and if that has as
many pods as it asks for, it is asked for them. -/
def deployment (s : Service) (answer : Controller × List Pod) : List Exchange :=
  ⟨.createController (Workload.controller s), .ok answer.1⟩ ::
    if Status.observed answer.1 = Status.desired answer.1 then
      [⟨.listPods (.forName answer.1.nameOrEmpty), .ok answer.2⟩]
    else []

/-- All calls that create a batch: the network services first, then the workloads. -/
def creation (services stored : List NetworkService) (batch : List Service)
    (answers : List (Controller × List Pod)) : List Exchange :=
  exposures services stored ++ (List.zipWith deployment batch answers).flatten

/-- The record of a controller as the backend answered, with the pods that were listed for it. -/
def recordFrom (answer : Controller × List Pod) : DeploymentRecord where
  id := answer.1.nameOrEmpty
  state := (Status.compute (Status.desired answer.1) (Status.observed answer.1) answer.2).text

/-! ## Single workloads -/

/-- Making a record ends with the first call that fails. -/
theorem failsFast_recordOf (c : Controller) : FailsFast (recordOf c) := by
  unfold recordOf Status.ofController
  refine FailsFast.bind ?_ fun status => .done _
  split
  · exact (asks_listPods _).failsFast.bind fun pods => .done _
  · exact .done _

/-- A record is made without a call, or from the pods where the two numbers agree. -/
theorem succeeds_recordOf {c : Controller} {t : List Exchange} {record : DeploymentRecord}
    (h : Succeeds (recordOf c) t record) :
    ∃ pods, record = recordFrom (c, pods) ∧
      t = if Status.observed c = Status.desired c then
        [⟨.listPods (.forName c.nameOrEmpty), .ok pods⟩] else [] := by
  unfold recordOf Status.ofController at h
  rcases (succeeds_bind_iff _ _ _ _).1 h with ⟨t₁, t₂, status, rfl, hstatus, hrecord⟩
  rcases (succeeds_done_iff _ _ _).1 hrecord with ⟨rfl, rfl⟩
  by_cases hnumbers : Status.observed c = Status.desired c
  · rw [if_pos hnumbers] at hstatus
    rcases (succeeds_bind_iff _ _ _ _).1 hstatus with ⟨t₁, t₂, pods, rfl, hpods, hdone⟩
    rcases (succeeds_done_iff _ _ _).1 hdone with ⟨rfl, rfl⟩
    obtain rfl := ((asks_listPods _).succeeds_iff _ _).1 hpods
    exact ⟨pods, rfl, by simp [hnumbers]⟩
  · rw [if_neg hnumbers] at hstatus
    rcases (succeeds_done_iff _ _ _).1 hstatus with ⟨rfl, rfl⟩
    exact ⟨[], rfl, by simp [hnumbers]⟩

/-- Creating a workload ends with the first call that fails. -/
theorem failsFast_deploy (s : Service) : FailsFast (deploy s) :=
  (asks_createController _).failsFast.bind failsFast_recordOf

/-- A workload that was created was stored and recorded as the backend answered. -/
theorem succeeds_deploy {s : Service} {t : List Exchange} {record : DeploymentRecord}
    (h : Succeeds (deploy s) t record) :
    ∃ answer, t = deployment s answer ∧ record = recordFrom answer := by
  unfold deploy at h
  rcases (succeeds_bind_iff _ _ _ _).1 h with ⟨t₁, t₂, created, rfl, hcreated, hrecord⟩
  obtain rfl := ((asks_createController _).succeeds_iff _ _).1 hcreated
  rcases succeeds_recordOf hrecord with ⟨pods, rfl, rfl⟩
  exact ⟨(created, pods), rfl, rfl⟩

/-! ## Whole batches -/

/-- If all network services were stored, there is one answer for each of them. -/
theorem succeeds_exposures {services : List NetworkService} {t : List Exchange}
    {stored : List NetworkService} (h : Succeeds (forEach services createService) t stored) :
    stored.length = services.length ∧ t = exposures services stored :=
  Asks.succeeds_forEach asks_createService h

/-- If all workloads were created, there is one answer and one record for each of them, in their
order. -/
theorem succeeds_deployments {batch : List Service} {t : List Exchange}
    {records : List DeploymentRecord} (h : Succeeds (forEach batch deploy) t records) :
    ∃ answers, answers.length = batch.length ∧
      t = (List.zipWith deployment batch answers).flatten ∧ records = answers.map recordFrom :=
  succeeds_forEach (fun _ _ _ hs => succeeds_deploy hs) h

/-! ## Creating a batch -/

section Accepted

variable {config : Config} {batch : List Service} {services : List NetworkService}

/-- Once its network services are resolved, a batch is created by two loops. -/
theorem create_of_resolve (h : Exposure.resolve config.externalIps batch = .ok services) :
    create config batch =
      forEach services createService >>= fun _ => forEach batch deploy := by
  unfold create
  rw [h]

/-- A creation ends with the first call that fails. -/
theorem failsFast_create (h : Exposure.resolve config.externalIps batch = .ok services) :
    FailsFast (create config batch) := by
  rw [create_of_resolve h]
  exact (FailsFast.forEach (fun v => (asks_createService v).failsFast) services).bind fun _ =>
    FailsFast.forEach failsFast_deploy batch

/-- The full runs that create a batch. -/
theorem succeeds_create (h : Exposure.resolve config.externalIps batch = .ok services)
    {t : List Exchange} {records : List DeploymentRecord}
    (ht : Succeeds (create config batch) t records) :
    ∃ stored answers, stored.length = services.length ∧ answers.length = batch.length ∧
      t = creation services stored batch answers ∧ records = answers.map recordFrom := by
  rw [create_of_resolve h] at ht
  rcases (succeeds_bind_iff _ _ _ _).1 ht with ⟨t₁, t₂, stored, rfl, hservices, hworkloads⟩
  rcases succeeds_exposures hservices with ⟨hstored, rfl⟩
  rcases succeeds_deployments hworkloads with ⟨answers, hanswers, rfl, rfl⟩
  exact ⟨stored, answers, hstored, hanswers, rfl, rfl⟩

end Accepted

/-- On every backend, a batch that is rejected makes no call. Otherwise the calls are those of
`creation`, all of which succeed, or they follow it up to the first call that fails and the error of
that call is returned. A failed validation is returned only if nothing was called. -/
theorem create_sequence (handler : Handler σ) (s : σ) (config : Config) (batch : List Service) :
    let t := (create config batch).transcript handler s
    let outcome := ((create config batch).run handler s).1
    (match Exposure.resolve config.externalIps batch with
      | .error r => t = [] ∧ outcome = .error (.error r.toError)
      | .ok services =>
        ∃ stored answers, stored.length = services.length ∧ answers.length = batch.length ∧
          ((t = creation services stored batch answers ∧ outcome = .ok (answers.map recordFrom)) ∨
            ∃ e, CutShort (creation services stored batch answers) t e ∧
              outcome = .error (.error e.toError))) ∧
    ∀ m, outcome = .error (.error (.validation m)) → t = [] := by
  intro t outcome
  cases h : Exposure.resolve config.externalIps batch with
  | error r =>
      have hcreate : create config batch = fail (.error r.toError) := by
        unfold create
        rw [h]
      have ht : t = [] := by simp [t, hcreate]
      exact ⟨⟨ht, by simp [outcome, hcreate]⟩, fun _ _ => ht⟩
  | ok services =>
      rcases (failsFast_create h).run_cases handler s with
        ⟨records, hfull, hrun⟩ | ⟨full, records, e, hfull, hcut, hrun⟩
      · rcases succeeds_create h hfull with ⟨stored, answers, hstored, hanswers, ht, rfl⟩
        refine ⟨⟨stored, answers, hstored, hanswers, .inl ⟨ht, hrun⟩⟩, ?_⟩
        intro m hm
        simp [outcome, hrun] at hm
      · rcases succeeds_create h hfull with ⟨stored, answers, hstored, hanswers, rfl, -⟩
        refine ⟨⟨stored, answers, hstored, hanswers, .inr ⟨e, hcut, hrun⟩⟩, ?_⟩
        intro m hm
        rcases e.toError_cases with ⟨-, htold⟩ | ⟨-, htold⟩ | ⟨-, htold⟩ <;>
          simp [outcome, hrun, htold] at hm

end Lifecycle

end Stevedore
