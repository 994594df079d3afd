import Stevedore.Proofs.Interleaving
import Stevedore.Proofs.Lifecycle.Creation
import Stevedore.Proofs.Lifecycle.RemovalInMemory
/-!
# Requests and the calls they make

A request creates a batch or removes a deployment. Whatever a backend answers, the calls made on a
request are of a few kinds only. An update sends a controller back that was found before, so where
controllers are found under their own names, it has the name of the deployment.

Main definitions:

- `Request`: with `Request.program` and the objects it creates.
- `Request.Makes`: the calls made on a request.

Main results:

- Theorem `Request.makes_of_reaches`: the calls of a request, however far it got.
- Theorem `Request.created_of_reaches`: a creation that returned has created all its objects.
- Theorem `Request.removed_of_reaches`: a removal that ended has deleted the controller, or a call
  failed before that.
-/

namespace Stevedore

open Backend Cluster Program

/-! ## Items of full runs -/

/-- What is zipped from two lists comes from one place in both. -/
theorem mem_zipWith_iff {α β γ : Type} (f : α → β → γ) (as : List α) (bs : List β) (y : γ) :
    y ∈ List.zipWith f as bs ↔
      ∃ (i : Nat) (a : α) (b : β), as[i]? = some a ∧ bs[i]? = some b ∧ f a b = y := by
  rw [List.mem_iff_getElem?]
  refine exists_congr fun i => ?_
  rw [List.getElem?_zipWith_eq_some]

/-- In lists of one length every item has its counterpart. -/
theorem exists_mem_zipWith {α β γ : Type} (f : α → β → γ) {as : List α} {bs : List β}
    (hlength : bs.length = as.length) {a : α} (ha : a ∈ as) : ∃ b, f a b ∈ List.zipWith f as bs := by
  rcases List.mem_iff_getElem.1 ha with ⟨i, hi, rfl⟩
  have hi' : i < bs.length := by omega
  refine ⟨bs[i], (mem_zipWith_iff f as bs _).2 ⟨i, as[i], bs[i], ?_, ?_, rfl⟩⟩
  · exact List.getElem?_eq_getElem hi
  · exact List.getElem?_eq_getElem hi'

namespace Lifecycle

variable {services stored : List NetworkService} {batch : List Service}
  {answers : List (Controller × List Pod)}

/-- The three kinds of calls that create a batch. -/
theorem call_of_mem_creation {x : Exchange} (hx : x ∈ creation services stored batch answers) :
    (∃ v ∈ services, x.call = .createService v) ∨
      (∃ b, x.call = .createController (Workload.controller b)) ∨
        ∃ selector, x.call = .listPods selector := by
  rcases List.mem_append.1 hx with hx | hx
  · rcases (mem_zipWith_iff _ _ _ _).1 hx with ⟨i, v, answer, hv, -, rfl⟩
    exact .inl ⟨v, List.mem_of_getElem? hv, rfl⟩
  · rcases List.mem_flatten.1 hx with ⟨calls, hcalls, hx⟩
    rcases (mem_zipWith_iff _ _ _ _).1 hcalls with ⟨i, b, answer, -, -, rfl⟩
    unfold deployment at hx
    rcases List.mem_cons.1 hx with rfl | hx
    · exact .inr (.inl ⟨b, rfl⟩)
    · split at hx
      · rw [List.mem_singleton.1 hx]
        exact .inr (.inr ⟨_, rfl⟩)
      · contradiction

/-- A call is made for a batch only if it is resolved; network services are created as resolved. -/
theorem call_of_create {config : Config} {handler : Handler σ} {s : σ} {x : Exchange}
    (hx : x ∈ (create config batch).transcript handler s) :
    ∃ services, Exposure.resolve config.externalIps batch = .ok services ∧
      ((∃ v ∈ services, x.call = .createService v) ∨
        (∃ b, x.call = .createController (Workload.controller b)) ∨
          ∃ selector, x.call = .listPods selector) := by
  cases hresolve : Exposure.resolve config.externalIps batch with
  | error r =>
      unfold create at hx
      simp [hresolve] at hx
  | ok services =>
      rcases (failsFast_create hresolve).exists_full handler s with ⟨full, records, hfull, hcalls⟩
      rcases succeeds_create hresolve hfull with ⟨stored, answers, -, -, rfl, -⟩
      rcases hcalls x hx with ⟨y, hy, hcall⟩
      rw [← hcall]
      exact ⟨services, rfl, call_of_mem_creation hy⟩

/-- A full run has created every network service of the batch. -/
theorem createService_mem_creation (hlength : stored.length = services.length)
    {v : NetworkService} (hv : v ∈ services) :
    ∃ answer, ⟨.createService v, .ok answer⟩ ∈ creation services stored batch answers := by
  rcases exists_mem_zipWith (fun v answer => (⟨.createService v, .ok answer⟩ : Exchange)) hlength hv
    with ⟨answer, hmem⟩
  exact ⟨answer, List.mem_append_left _ hmem⟩

/-- A full run has created the workload of every service of the batch. -/
theorem createController_mem_creation (hlength : answers.length = batch.length)
    {b : Service} (hb : b ∈ batch) :
    ∃ answer, ⟨.createController (Workload.controller b), .ok answer⟩ ∈
      creation services stored batch answers := by
  rcases exists_mem_zipWith deployment hlength hb with ⟨answer, hmem⟩
  refine ⟨answer.1, List.mem_append_right _ (List.mem_flatten.2 ⟨_, hmem, ?_⟩)⟩
  exact List.mem_cons_self

/-- The calls that remove the objects of a deployment. All but the first one follow the answer that
a controller was found. -/
theorem calls_of_dismantle (handler : Handler σ) (s : σ) (id : String) :
    ∃ c listed updated,
      (∀ x ∈ (dismantle id).transcript handler s,
        ∃ y ∈ removal id c listed updated, y.call = x.call) ∧
      ∀ x ∈ (dismantle id).transcript handler s, x.call = .getController id ∨
        ⟨.getController id, .ok c⟩ ∈ (dismantle id).transcript handler s := by
  rcases (failsFast_dismantle id).run_cases handler s with
    ⟨selector, hfull, -⟩ | ⟨full, selector, e, hfull, hcut, -⟩
  · rcases succeeds_dismantle hfull with ⟨c, listed, updated, ht, -⟩
    refine ⟨c, listed, updated, ?_, ?_⟩
    · intro x hx
      exact ⟨x, ht ▸ hx, rfl⟩
    · intro x _
      right
      rw [ht]
      exact List.mem_cons_self
  · rcases succeeds_dismantle hfull with ⟨c, listed, updated, rfl, -⟩
    refine ⟨c, listed, updated, hcut.exists_call_eq, ?_⟩
    rcases hcut with ⟨before, last, y, after, hsplit, ht, hcall, -⟩
    rw [ht]
    cases before with
    | nil =>
        rcases List.cons.inj hsplit with ⟨rfl, -⟩
        intro x hx
        left
        rw [List.mem_singleton.1 hx]
        exact hcall
    | cons first rest =>
        rcases List.cons.inj hsplit with ⟨rfl, -⟩
        intro x _
        right
        exact List.mem_cons_self

end Lifecycle

/-! ## Requests -/

/-- What a request answers if it succeeds. -/
inductive Response where
  | created (records : List DeploymentRecord)
  | removed

/-- A request that changes deployments. -/
inductive Request where
  | create (config : Config) (batch : List Service)
  | remove (removal : Removal)

namespace Request

/-- What is done on a request. -/
def program : Request → Program Response
  | create config batch => Lifecycle.create config batch >>= fun records => done (.created records)
  | remove m => m.program >>= fun _ => done .removed

/-- The network services that are created on a request. -/
def services : Request → List NetworkService
  | create config batch =>
    match Exposure.resolve config.externalIps batch with
    | .ok services => services
    | .error _ => []
  | remove _ => []

/-- The controllers that are created on a request, as they are stored. -/
def controllers : Request → List Controller
  | create _ batch => batch.map Workload.unobserved
  | remove _ => []

/-- Two requests create a controller of one name each, or a network service of one name. -/
def Shares (r r' : Request) : Prop :=
  (∃ c ∈ r.controllers, ∃ d ∈ r'.controllers, ∃ name,
    c.metadata.name = some name ∧ d.metadata.name = some name) ∨
  ∃ v ∈ r.services, ∃ u ∈ r'.services, ∃ name,
    v.metadata.name = some name ∧ u.metadata.name = some name

/-- The calls made on a request. -/
inductive Makes : Request → Call → Prop
  | createService {config : Config} {batch : List Service} (v : NetworkService) :
      Makes (create config batch) (.createService v)
  | createController {config : Config} {batch : List Service} (b : Service) :
      Makes (create config batch) (.createController (Workload.controller b))
  | listPods (r : Request) (selector : Selector) : Makes r (.listPods selector)
  | getController (m : Removal) : Makes (remove m) (.getController m.id)
  | listServices (m : Removal) (selector : Selector) : Makes (remove m) (.listServices selector)
  | deleteService (m : Removal) (name : String) : Makes (remove m) (.deleteService name)
  | updateController {m : Removal} {c : Controller} (hname : c.metadata.name = some m.id) :
      Makes (remove m) (.updateController c)
  | deleteController (m : Removal) : Makes (remove m) (.deleteController m.id)

/-- If a controller was found, it has the name that was asked for. -/
def FindsByName : Exchange → Prop
  | ⟨.getController name, .ok c⟩ => c.metadata.name = some name
  | _ => True

/-- A creation makes no calls but those that create its objects and list pods. -/
theorem makes_of_create (handler : Handler σ) (s : σ) (config : Config) (batch : List Service) :
    ∀ x ∈ (Lifecycle.create config batch).transcript handler s,
      (create config batch).Makes x.call := by
  intro x hx
  rcases Lifecycle.call_of_create hx with ⟨services, -, ⟨v, -, hv⟩ | ⟨b, hb⟩ | ⟨selector, hselector⟩⟩
  · rw [hv]
    exact .createService v
  · rw [hb]
    exact .createController b
  · rw [hselector]
    exact .listPods _ selector

/-- The part of a removal before the wait makes no calls but those of a removal, if what it finds
has the name. -/
theorem makes_of_dismantle (handler : Handler σ) (s : σ) (m : Removal)
    (hfound : ∀ x ∈ (Lifecycle.dismantle m.id).transcript handler s, FindsByName x) :
    ∀ x ∈ (Lifecycle.dismantle m.id).transcript handler s, (remove m).Makes x.call := by
  intro x hx
  rcases Lifecycle.calls_of_dismantle handler s m.id with ⟨c, listed, updated, hcalls, hfirst⟩
  rcases hfirst x hx with hget | hmem
  · rw [hget]
    exact .getController m
  · have hname : c.metadata.name = some m.id := hfound _ hmem
    have hkey : Lifecycle.nameOf m.id c = m.id := by
      simp [Lifecycle.nameOf, hname]
    rcases hcalls x hx with ⟨y, hy, hcall⟩
    rw [← hcall]
    unfold Lifecycle.removal Lifecycle.preparation Lifecycle.clearing at hy
    simp only [List.cons_append, List.mem_cons, List.mem_append, List.mem_map,
      List.not_mem_nil, or_false] at hy
    rcases hy with rfl | rfl | (⟨name, -, rfl⟩ | rfl) | rfl
    · exact .getController m
    · exact .listServices m _
    · exact .deleteService m name
    · exact .updateController hname
    · unfold Lifecycle.deletion
      rw [hkey]
      exact .deleteController m

/-- On a request no calls are made but those that belong to it. -/
theorem makes_of_transcript (handler : Handler σ) (s : σ) (r : Request)
    (hfound : ∀ x ∈ r.program.transcript handler s, FindsByName x) :
    ∀ x ∈ r.program.transcript handler s, r.Makes x.call := by
  cases r with
  | create config batch =>
      unfold program
      rw [transcript_bind_done]
      exact makes_of_create handler s config batch
  | remove m =>
      unfold program Removal.program Lifecycle.destroy at hfound ⊢
      rw [transcript_bind_done] at hfound ⊢
      refine forall_transcript_bind ?_ ?_
      · apply makes_of_dismantle
        intro x hx
        apply hfound
        rw [transcript_bind]
        exact List.mem_append_left _ hx
      · intro selector s x hx
        rw [Teardown.listPods_of_wait handler s _ selector _ x hx]
        exact .listPods _ selector

/-- However far a request got, these are the calls it made. -/
theorem makes_of_reaches {r : Request} {t : List Exchange} {q : Program Response}
    (h : Reaches r.program t q) (hfound : ∀ x ∈ t, FindsByName x) : ∀ x ∈ t, r.Makes x.call := by
  have htranscript := h.transcript_scripted []
  have hmakes : ∀ x ∈ r.program.transcript scripted (t ++ []), r.Makes x.call := by
    apply makes_of_transcript
    intro x hx
    rw [htranscript] at hx
    rcases List.mem_append.1 hx with hx | hx
    · exact hfound x hx
    · rcases failed_of_transcript_nil q x hx with ⟨c, rfl⟩
      cases c <;> trivial
  intro x hx
  apply hmakes
  rw [htranscript]
  exact List.mem_append_left _ hx

/-! ## Requests that have ended -/

/-- A creation that returned has created all its objects. -/
theorem created_of_reaches {r : Request} {t : List Exchange} {answer : Response}
    (h : Reaches r.program t (.done answer)) :
    (∀ v ∈ r.services, ∃ stored, ⟨.createService v, .ok stored⟩ ∈ t) ∧
      ∀ c ∈ r.controllers, ∃ asked stored, ⟨.createController asked, .ok stored⟩ ∈ t ∧
        c = { asked with status := some { asked.status.getD {} with replicas := 0 } } := by
  cases r with
  | remove m => simp [services, controllers]
  | create config batch =>
      rcases Reaches.of_bind_done h with ⟨htranscript, records, hrun, -⟩
      cases hresolve : Exposure.resolve config.externalIps batch with
      | error r =>
          unfold Lifecycle.create at hrun
          rw [hresolve, run_fail] at hrun
          contradiction
      | ok resolved =>
          have hservices : (create config batch).services = resolved := by
            simp [services, hresolve]
          rcases (Lifecycle.failsFast_create hresolve).run_cases scripted t with
            ⟨records, hfull, -⟩ | ⟨full, records, e, -, -, herror⟩
          · rcases Lifecycle.succeeds_create hresolve hfull with
              ⟨stored, answers, hstored, hanswers, ht, -⟩
            rw [htranscript] at ht
            subst ht
            refine ⟨?_, ?_⟩
            · intro v hv
              rw [hservices] at hv
              exact Lifecycle.createService_mem_creation hstored hv
            · intro c hc
              rcases List.mem_map.1 hc with ⟨b, hb, rfl⟩
              rcases Lifecycle.createController_mem_creation hanswers hb with ⟨stored, hmem⟩
              exact ⟨_, stored, hmem, rfl⟩
          · rw [herror] at hrun
            contradiction

/-- A removal that ended has found the controller and deleted it under its name, or it returns the
error of a call that failed, and has deleted nothing. -/
theorem removed_of_reaches {m : Removal} (hend : m.Ends) {t : List Exchange} {q : Program Response}
    (h : Reaches (remove m).program t q) (hq : ∀ c next, q ≠ .call c next) :
    (∃ c, q = .done .removed ∧ ⟨.getController m.id, .ok c⟩ ∈ t ∧
        Lifecycle.deletion (Lifecycle.nameOf m.id c) ∈ t) ∨
      ∃ e, q = .fail (.error e.toError) ∧ (∃ x ∈ t, x.failure? = some e) ∧
        ∀ name, Lifecycle.deletion name ∉ t := by
  have hcases := Lifecycle.destroy_cases scripted t m.config m.clock m.id hend
  cases q with
  | call c next => exact absurd rfl (hq c next)
  | done answer =>
      left
      rcases Reaches.of_bind_done h with ⟨htranscript, _, hrun, rfl⟩
      unfold Removal.program at htranscript hrun
      rcases hcases with ⟨c, listed, updated, ⟨looks, ht, -, -⟩ | ⟨e, -, herror⟩⟩
      · rw [htranscript] at ht
        refine ⟨c, rfl, ?_, ?_⟩
        · simp [ht, Lifecycle.removal, Lifecycle.preparation, Lifecycle.clearing]
        · simp [ht, Lifecycle.removal]
      · rw [herror] at hrun
        contradiction
  | fail failure =>
      right
      rcases Reaches.of_bind_fail h with ⟨htranscript, hrun⟩
      unfold Removal.program at htranscript hrun
      rcases hcases with ⟨c, listed, updated, ⟨looks, -, -, hok⟩ | ⟨e, hcut, herror⟩⟩
      · rw [hok] at hrun
        contradiction
      · rw [htranscript] at hcut
        rw [herror, Except.error.injEq] at hrun
        refine ⟨e, by rw [hrun], ?_, Lifecycle.deletion_not_mem_of_cutShort hcut⟩
        rcases hcut with ⟨before, last, y, after, -, rfl, -, hfail⟩
        exact ⟨last, by simp, hfail⟩

end Request

end Stevedore
