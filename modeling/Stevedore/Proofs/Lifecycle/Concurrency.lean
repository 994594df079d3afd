import Stevedore.Proofs.Backend.Balance
import Stevedore.Proofs.Lifecycle.Requests
/-!
# Requests side by side

Any number of requests run over one store; their calls come in any order. No request holds anything
back for another one. What they cannot do is create an object whose name is taken, or delete a
controller that is gone. So names stay distinct, and for each name creations and deletions of its
controller balance.

Main results:

- Theorem `serve_induction`: what the calls of requests keep holds of all requests in all orders.
- Theorem `stored_add_created`: a controller is there as often as it was created more than deleted.
- Theorem `objects_of_creations`: while requests only create, the store has what they created.
- Theorem `failure_of_removals`: while requests only remove one deployment, calls fail after it is
  gone.
- Theorem `requests_interleaved`: what requests side by side answer and leave.
-/

namespace Stevedore

open Backend Cluster Program

/-! ## Crowds of requests -/

namespace Lifecycle

/-- Requests that run over a store, in the order that a schedule gives to their calls. -/
def serve (s : Store) (requests : List Request) (schedule : List Nat) : Crowd Store Response :=
  (Crowd.start s (requests.map (·.program))).run Store.handle schedule

section Serving

variable {s : Store} {requests : List Request}

/-- Without failures on demand a call goes by its answer alone. -/
theorem answering_handle {w : Crowd Store Response} (hw : ∀ op, w.state.errors op = none) (i : Nat)
    (c : Call) (next : c.Reply → Program Response) :
    w.answering Store.handle i c next = w.answering Store.answer i c next := by
  unfold Crowd.answering
  rw [Store.handle_of_errors_eq_none hw]

/-- Serving requests changes nothing about which calls are made to fail. -/
theorem errors_serve (hs : ∀ op, s.errors op = none) (schedule : List Nat) :
    ∀ op, (serve s requests schedule).state.errors op = none := by
  refine Crowd.run_induction (I := fun w : Crowd Store Response => ∀ op, w.state.errors op = none)
    schedule hs ?_
  intro before i c next hbefore _ op
  rw [answering_handle hbefore]
  unfold Crowd.answering
  rw [Store.errors_answer]
  exact hbefore op

/-- What a store finds under a name has this name. -/
theorem findsByName_answer (c : Call) (s : Store) :
    Request.FindsByName ⟨c, (Store.answer c s).1⟩ := by
  cases c with
  | getController name =>
      change Request.FindsByName ⟨.getController name, (s.getController name).1⟩
      unfold Store.getController
      split
      · next c hc => exact Store.name_of_controller? hc
      · trivial
  | _ => trivial

/-- What is found under a name while requests are served has this name. -/
theorem findsByName_serve (hs : ∀ op, s.errors op = none) (schedule : List Nat) :
    ∀ e ∈ (serve s requests schedule).log, Request.FindsByName e.2 := by
  refine Crowd.run_induction (I := fun w : Crowd Store Response =>
    ∀ e ∈ w.log, Request.FindsByName e.2) schedule
    (by simp [Crowd.start]) ?_
  intro before i c next hbefore _ e he
  change e ∈ ((serve s requests before).answering Store.handle i c next).log at he
  rw [answering_handle (errors_serve hs before)] at he
  rcases List.mem_append.1 he with he | he
  · exact hbefore e he
  · rw [List.mem_singleton.1 he]
    exact findsByName_answer c _

/-- The request at a place has got as far as its part of the log says. -/
theorem reaches_serve {i : Nat} {r : Request} (hr : requests[i]? = some r) (schedule : List Nat) :
    ∃ q, (serve s requests schedule).programs[i]? = some q ∧
      Reaches r.program ((serve s requests schedule).part i) q :=
  Crowd.reaches_run Store.handle s schedule (by simp [hr])

/-- Every call in the log was made on one of the requests. -/
theorem lt_length_of_mem_log_serve {schedule : List Nat} {i : Nat} {x : Exchange}
    (hx : (i, x) ∈ (serve s requests schedule).log) : i < requests.length := by
  have hlog := Crowd.lt_length_of_mem_log Store.handle s schedule _ hx
  simpa using hlog

/-- Every call in the log is one that its request makes. -/
theorem makes_serve (hs : ∀ op, s.errors op = none) (schedule : List Nat) {i : Nat} {x : Exchange}
    (hx : (i, x) ∈ (serve s requests schedule).log) :
    ∃ r, requests[i]? = some r ∧ r.Makes x.call := by
  have hlt := lt_length_of_mem_log_serve hx
  have hr : requests[i]? = some requests[i] := List.getElem?_eq_getElem hlt
  rcases reaches_serve (s := s) hr schedule with ⟨q, -, hreaches⟩
  refine ⟨requests[i], hr, ?_⟩
  apply Request.makes_of_reaches hreaches
  · intro y hy
    exact findsByName_serve hs schedule (i, y) ((Crowd.mem_part_iff _ i y).1 hy)
  · exact (Crowd.mem_part_iff _ i x).2 hx

/-- What the calls of requests keep of the store and the log holds of all requests, in whatever order
they make their calls. -/
theorem serve_induction (hs : ∀ op, s.errors op = none) {I : Store → List (Nat × Exchange) → Prop}
    (hstart : I s [])
    (hcall : ∀ state log i r c, I state log → requests[i]? = some r → r.Makes c →
      I (Store.answer c state).2 (log ++ [(i, ⟨c, (Store.answer c state).1⟩)]))
    (schedule : List Nat) :
    I (serve s requests schedule).state (serve s requests schedule).log := by
  refine Crowd.run_induction (I := fun w : Crowd Store Response => I w.state w.log) schedule
    hstart ?_
  intro before i c next hbefore hi
  have herrors : ∀ op, (serve s requests before).state.errors op = none := errors_serve hs before
  have hanswering := answering_handle herrors i c next
  have hmem : (i, (⟨c, (Store.answer c (serve s requests before).state).1⟩ : Exchange)) ∈
      (serve s requests (before ++ [i])).log := by
    have hstep : serve s requests (before ++ [i]) =
        (serve s requests before).answering Store.handle i c next := by
      unfold serve
      rw [Crowd.run_concat, Crowd.step_of_call Store.handle hi]
    rw [hstep, hanswering]
    exact List.mem_append_right _ List.mem_cons_self
  rcases makes_serve hs (before ++ [i]) hmem with ⟨r, hr, hmakes⟩
  have hkept := hcall _ _ i r c hbefore hr hmakes
  change I ((serve s requests before).answering Store.handle i c next).state
    ((serve s requests before).answering Store.handle i c next).log
  rw [hanswering]
  exact hkept

/-! ## Names and balances -/

/-- The names stay distinct while requests are served. -/
theorem distinctNames_serve (hs : ∀ op, s.errors op = none) (hnames : s.DistinctNames)
    (schedule : List Nat) : (serve s requests schedule).state.DistinctNames := by
  refine serve_induction (I := fun state _ => state.DistinctNames) hs hnames ?_ schedule
  intro state log i r c hstate _ _
  exact Store.distinctNames_answer c hstate

/-- An update made on a request has a name. -/
theorem name_ne_none_of_makes {r : Request} {c : Call} (h : r.Makes c) :
    ∀ u, c = .updateController u → u.metadata.name ≠ none := by
  rintro u rfl
  cases h with
  | updateController hname => simp [hname]

/-- At any time a controller was there at the start or created, or it is stored or deleted, equally
often. -/
theorem stored_add_created (hs : ∀ op, s.errors op = none) (schedule : List Nat) (name : String) :
    s.stored name + (serve s requests schedule).log.countP (fun e => e.2.creates name) =
      (serve s requests schedule).state.stored name +
        (serve s requests schedule).log.countP (fun e => e.2.deletes name) := by
  refine serve_induction (I := fun state log =>
    s.stored name + log.countP (fun e => e.2.creates name) =
      state.stored name + log.countP (fun e => e.2.deletes name)) hs rfl ?_ schedule
  intro state log i r c hbalance _ hmakes
  have hstep := Store.stored_answer state (name_ne_none_of_makes hmakes) name
  simp only [List.countP_append, List.countP_singleton]
  omega

/-! ## Requests that create -/

/-- What a call made to create a batch adds to the objects. -/
theorem objects_answer_of_creation {config : Config} {batch : List Service} {c : Call}
    (h : (Request.create config batch).Makes c) (s : Store) :
    (Store.answer c s).2.controllers =
        s.controllers ++ (Exchange.mk c (Store.answer c s).1).createdController.toList ∧
      (Store.answer c s).2.services =
        s.services ++ (Exchange.mk c (Store.answer c s).1).createdService.toList := by
  cases h with
  | createService v =>
      change (s.createService v).2.controllers = s.controllers ++ [] ∧
        (s.createService v).2.services = s.services ++
          (Exchange.mk (.createService v) (s.createService v).1).createdService.toList
      unfold Store.createService
      split <;> simp [Exchange.createdService]
  | createController b =>
      change (s.createController (Workload.controller b)).2.controllers = s.controllers ++
          (Exchange.mk (.createController (Workload.controller b))
            (s.createController (Workload.controller b)).1).createdController.toList ∧
        (s.createController (Workload.controller b)).2.services = s.services ++ []
      unfold Store.createController
      split
      · simp [Exchange.createdController]
      · exact ⟨rfl, (List.append_nil _).symm⟩
  | listPods =>
      change (s.listPods _).2.controllers = s.controllers ++ [] ∧
        (s.listPods _).2.services = s.services ++ []
      unfold Store.listPods
      split <;> simp

/-- While requests only create, the objects they stored are added to those at the start, in the order
of the calls. -/
theorem objects_of_creations (hs : ∀ op, s.errors op = none)
    (hcreate : ∀ r ∈ requests, ∃ config batch, r = .create config batch) (schedule : List Nat) :
    (serve s requests schedule).state.controllers =
        s.controllers ++ (serve s requests schedule).log.filterMap (·.2.createdController) ∧
      (serve s requests schedule).state.services =
        s.services ++ (serve s requests schedule).log.filterMap (·.2.createdService) := by
  refine serve_induction (I := fun state log =>
    state.controllers = s.controllers ++ log.filterMap (·.2.createdController) ∧
      state.services = s.services ++ log.filterMap (·.2.createdService)) hs (by simp) ?_ schedule
  intro state log i r c hobjects hr hmakes
  rcases hcreate r (List.mem_of_getElem? hr) with ⟨config, batch, rfl⟩
  have hstep := objects_answer_of_creation hmakes state
  rw [hstep.1, hstep.2, hobjects.1, hobjects.2]
  constructor
  · rw [List.filterMap_append, List.append_assoc]
    cases hcreated : (Exchange.mk c (Store.answer c state).1).createdController <;>
      simp [hcreated]
  · rw [List.filterMap_append, List.append_assoc]
    cases hcreated : (Exchange.mk c (Store.answer c state).1).createdService <;>
      simp [hcreated]

/-- A creation that returned stored each of its objects by a call of its own. -/
theorem entries_of_returned {i : Nat} {r : Request} (hr : requests[i]? = some r)
    {schedule : List Nat} (hreturned : (serve s requests schedule).Returned i) :
    (∀ c ∈ r.controllers, ∃ x, (i, x) ∈ (serve s requests schedule).log ∧
        x.createdController = some c) ∧
      ∀ v ∈ r.services, ∃ x, (i, x) ∈ (serve s requests schedule).log ∧
        x.createdService = some v := by
  rcases reaches_serve (s := s) hr schedule with ⟨q, hq, hreaches⟩
  rcases hreturned with ⟨answer, hanswer⟩
  rw [hq, Option.some.injEq] at hanswer
  subst hanswer
  rcases Request.created_of_reaches hreaches with ⟨hservices, hcontrollers⟩
  constructor
  · intro c hc
    rcases hcontrollers c hc with ⟨asked, stored, hmem, rfl⟩
    exact ⟨_, (Crowd.mem_part_iff _ i _).1 hmem, rfl⟩
  · intro v hv
    rcases hservices v hv with ⟨stored, hmem⟩
    exact ⟨_, (Crowd.mem_part_iff _ i _).1 hmem, rfl⟩

/-- Where what was made in calls differs in its names, calls that made one name have one place. -/
theorem place_eq_of_nodup {α : Type} {made : Exchange → Option α} {key : α → Option String}
    {log : List (Nat × Exchange)} (h : ((log.filterMap fun e => made e.2).filterMap key).Nodup)
    {i j : Nat} {x y : Exchange} (hx : (i, x) ∈ log) (hy : (j, y) ∈ log) {a b : α}
    (hxa : made x = some a) (hyb : made y = some b) {name : String} (ha : key a = some name)
    (hb : key b = some name) : i = j := by
  rw [List.filterMap_filterMap] at h
  have hxname : (made x).bind key = some name := by simp [hxa, ha]
  have hyname : (made y).bind key = some name := by simp [hyb, hb]
  have hsame := Store.eq_of_nodup_filterMap h hx hy hxname hyname
  exact (Prod.mk.inj hsame).1

/-- While requests only create, two that return have no name in common. -/
theorem eq_of_returned (hs : ∀ op, s.errors op = none) (hnames : s.DistinctNames)
    (hcreate : ∀ r ∈ requests, ∃ config batch, r = .create config batch) {schedule : List Nat}
    {i j : Nat} {r r' : Request} (hr : requests[i]? = some r) (hr' : requests[j]? = some r')
    (hi : (serve s requests schedule).Returned i) (hj : (serve s requests schedule).Returned j)
    (hshares : r.Shares r') : i = j := by
  have hobjects := objects_of_creations hs hcreate schedule
  have hdistinct : (serve s requests schedule).state.DistinctNames :=
    distinctNames_serve hs hnames schedule
  rcases hshares with ⟨c, hc, d, hd, name, hcname, hdname⟩ | ⟨v, hv, u, hu, name, hvname, huname⟩
  · rcases (entries_of_returned hr hi).1 c hc with ⟨x, hx, hxc⟩
    rcases (entries_of_returned hr' hj).1 d hd with ⟨y, hy, hyd⟩
    have hall := hdistinct.controllers_nodup
    unfold Store.controllerNames at hall
    rw [hobjects.1, List.filterMap_append, List.nodup_append] at hall
    exact place_eq_of_nodup hall.2.1 hx hy hxc hyd hcname hdname
  · rcases (entries_of_returned hr hi).2 v hv with ⟨x, hx, hxv⟩
    rcases (entries_of_returned hr' hj).2 u hu with ⟨y, hy, hyu⟩
    have hall := hdistinct.services_nodup
    unfold Store.serviceNames at hall
    rw [hobjects.2, List.filterMap_append, List.nodup_append] at hall
    exact place_eq_of_nodup hall.2.1 hx hy hxv hyu hvname huname

/-! ## Requests that remove one deployment -/

/-- The calls of a removal fail only where the controller is not stored. -/
theorem failure_answer_of_removal {m : Removal} {c : Call} (h : (Request.remove m).Makes c)
    {s : Store} {e : BackendError} (hfail : (Exchange.mk c (Store.answer c s).1).failure? = some e) :
    e = Store.controllerNotFound m.id ∧ ¬ s.HasController m.id := by
  rw [← Store.isSome_controller?_iff]
  cases h with
  | getController =>
      change errorOf? (s.getController m.id).1 = some e at hfail
      unfold Store.getController at hfail
      cases hfound : s.controller? m.id with
      | some c => simp [hfound, errorOf?] at hfail
      | none => simpa [hfound, errorOf?, eq_comm] using hfail
  | updateController hname =>
      change errorOf? (s.updateController _).1 = some e at hfail
      unfold Store.updateController at hfail
      rw [Controller.nameOrEmpty_of_name hname] at hfail
      by_cases hfound : (s.controller? m.id).isSome
      · simp [hfound, errorOf?] at hfail
      · rw [if_neg hfound] at hfail
        exact ⟨(Option.some.inj hfail).symm, hfound⟩
  | deleteController =>
      change errorOf? (s.deleteController m.id).1 = some e at hfail
      unfold Store.deleteController at hfail
      by_cases hfound : (s.controller? m.id).isSome
      · simp [hfound, errorOf?] at hfail
      · rw [if_neg hfound] at hfail
        exact ⟨(Option.some.inj hfail).symm, hfound⟩
  | listPods =>
      change errorOf? (s.listPods _).1 = some e at hfail
      unfold Store.listPods at hfail
      split at hfail <;> simp [errorOf?] at hfail
  | listServices => nomatch hfail
  | deleteService => nomatch hfail

/-- A call of a removal creates no controller. -/
theorem not_creates_of_removal {m : Removal} {c : Call} (h : (Request.remove m).Makes c)
    (reply : c.Reply) (name : String) : (Exchange.mk c reply).creates name = false := by
  cases h <;> rfl

/-- While requests only remove one deployment that was stored, its controller is stored or was
deleted once, and a call that fails says that it is gone. -/
theorem failure_of_removals (hs : ∀ op, s.errors op = none) {id : String}
    (hstored : s.HasController id) (hremove : ∀ r ∈ requests, ∃ m, r = .remove m ∧ m.id = id)
    (schedule : List Nat) :
    (serve s requests schedule).state.stored id +
        (serve s requests schedule).log.countP (fun e => e.2.deletes id) = 1 ∧
      ∀ e ∈ (serve s requests schedule).log, ∀ err, e.2.failure? = some err →
        err = Store.controllerNotFound id ∧
          0 < (serve s requests schedule).log.countP (fun e => e.2.deletes id) := by
  refine serve_induction (I := fun state log =>
    state.stored id + log.countP (fun e => e.2.deletes id) = 1 ∧
      ∀ e ∈ log, ∀ err, e.2.failure? = some err →
        err = Store.controllerNotFound id ∧ 0 < log.countP (fun e => e.2.deletes id)) hs ?_ ?_
    schedule
  · simp [Store.stored, hstored]
  · intro state log i r c hbefore hr hmakes
    rcases hbefore with ⟨honce, hfailures⟩
    rcases hremove r (List.mem_of_getElem? hr) with ⟨m, rfl, rfl⟩
    have hstep := Store.stored_answer state (name_ne_none_of_makes hmakes) m.id
    rw [not_creates_of_removal hmakes] at hstep
    simp only [List.countP_append, List.countP_singleton]
    refine ⟨by simp at hstep; omega, ?_⟩
    intro e he err herr
    rcases List.mem_append.1 he with he | he
    · have hlater := hfailures e he err herr
      exact ⟨hlater.1, by omega⟩
    · rw [List.mem_singleton.1 he] at herr
      have hgone := failure_answer_of_removal hmakes herr
      have hzero : state.stored m.id = 0 := if_neg hgone.2
      exact ⟨hgone.1, by omega⟩

/-- Where at most one item of a list is of some kind, two of that kind are the same. -/
theorem eq_of_countP_le_one {α : Type} {P : α → Bool} {items : List α} (h : items.countP P ≤ 1)
    {a b : α} (ha : a ∈ items) (hb : b ∈ items) (hPa : P a) (hPb : P b) : a = b := by
  rw [List.countP_eq_length_filter] at h
  have hamem : a ∈ items.filter P := List.mem_filter.2 ⟨ha, hPa⟩
  have hbmem : b ∈ items.filter P := List.mem_filter.2 ⟨hb, hPb⟩
  cases hkind : items.filter P with
  | nil =>
      rw [hkind] at hamem
      contradiction
  | cons first rest =>
      rw [hkind, List.length_cons] at h
      have hrest : rest = [] := List.length_eq_zero_iff.1 (by omega)
      rw [hkind, hrest, List.mem_singleton] at hamem hbmem
      rw [hamem, hbmem]

/-- A call that deletes a controller is the deletion under its name. -/
theorem eq_deletion_of_deletes {x : Exchange} {name : String} (h : x.deletes name) :
    x = deletion name := by
  unfold Exchange.deletes at h
  split at h
  · obtain rfl := eq_of_beq h
    rfl
  · contradiction

/-- Removals of one id that end are removals of this id. -/
theorem removals_of_ends {id : String}
    (hremove : ∀ r ∈ requests, ∃ m, r = .remove m ∧ m.id = id ∧ m.Ends) :
    ∀ r ∈ requests, ∃ m : Removal, r = .remove m ∧ m.id = id := by
  intro r hr
  rcases hremove r hr with ⟨m, hm, hid, -⟩
  exact ⟨m, hm, hid⟩

/-- A removal that ended deleted the controller, or it answers that the controller is gone. Then it
was deleted by another request. -/
theorem removal_cases (hs : ∀ op, s.errors op = none) {id : String} (hstored : s.HasController id)
    (hremove : ∀ r ∈ requests, ∃ m, r = .remove m ∧ m.id = id ∧ m.Ends) {schedule : List Nat}
    {i : Nat} {q : Program Response}
    (hq : (serve s requests schedule).programs[i]? = some q) (hended : ∀ c next, q ≠ .call c next) :
    (q = .done .removed ∧ (i, deletion id) ∈ (serve s requests schedule).log) ∨
      (q = .fail (Removal.notFound id) ∧
        (i, deletion id) ∉ (serve s requests schedule).log ∧
          0 < (serve s requests schedule).log.countP (fun e => e.2.deletes id)) := by
  have hlt : i < requests.length := by
    have hplace := (List.getElem?_eq_some_iff.1 hq).1
    unfold serve at hplace
    rwa [Crowd.length_programs_run, List.length_map] at hplace
  have hr : requests[i]? = some requests[i] := List.getElem?_eq_getElem hlt
  rcases reaches_serve (s := s) hr schedule with ⟨q', hq', hreaches⟩
  rw [hq, Option.some.injEq] at hq'
  subst hq'
  rcases hremove requests[i] (List.getElem_mem hlt) with ⟨m, hm, rfl, hend⟩
  rw [hm] at hreaches
  rcases Request.removed_of_reaches hend hreaches hended with
    ⟨c, hdone, hget, hdeleted⟩ | ⟨e, hfailed, ⟨x, hx, hfail⟩, hnone⟩
  · left
    have hname : c.metadata.name = some m.id :=
      findsByName_serve hs schedule _ ((Crowd.mem_part_iff _ i _).1 hget)
    have hkey : nameOf m.id c = m.id := by
      simp [nameOf, hname]
    rw [hkey] at hdeleted
    exact ⟨hdone, (Crowd.mem_part_iff _ i _).1 hdeleted⟩
  · right
    have hfailure := (failure_of_removals hs hstored (removals_of_ends hremove) schedule).2 (i, x)
      ((Crowd.mem_part_iff _ i x).1 hx) e hfail
    refine ⟨?_, ?_, hfailure.2⟩
    · rw [hfailed, hfailure.1]
      rfl
    · intro hmem
      exact hnone m.id ((Crowd.mem_part_iff _ i _).2 hmem)

/-- While requests only remove one deployment that was stored, then once all have ended, exactly one
returned, and the others answer that the deployment is not there. -/
theorem exists_returned_of_removals (hs : ∀ op, s.errors op = none) {id : String}
    (hstored : s.HasController id) (hsome : requests ≠ [])
    (hremove : ∀ r ∈ requests, ∃ m, r = .remove m ∧ m.id = id ∧ m.Ends) {schedule : List Nat}
    (hended : (serve s requests schedule).Ended) :
    ∃ i, (serve s requests schedule).Returned i ∧
      ∀ j q, j ≠ i → (serve s requests schedule).programs[j]? = some q →
        q = .fail (Removal.notFound id) := by
  have hcases : ∀ i q, (serve s requests schedule).programs[i]? = some q →
      (q = .done .removed ∧ (i, deletion id) ∈ (serve s requests schedule).log) ∨
        (q = .fail (Removal.notFound id) ∧
          (i, deletion id) ∉ (serve s requests schedule).log ∧
            0 < (serve s requests schedule).log.countP (fun e => e.2.deletes id)) := by
    intro i q hq
    exact removal_cases hs hstored hremove hq (hended q (List.mem_of_getElem? hq))
  have hplace : ∀ i, i < requests.length → ∃ q, (serve s requests schedule).programs[i]? = some q := by
    intro i hi
    rcases reaches_serve (s := s) (List.getElem?_eq_getElem hi) schedule with ⟨q, hq, -⟩
    exact ⟨q, hq⟩
  have hdeleted : ∃ i, (i, deletion id) ∈ (serve s requests schedule).log := by
    rcases hplace 0 (List.length_pos_iff.2 hsome) with ⟨q, hq⟩
    rcases hcases 0 q hq with ⟨-, hmem⟩ | ⟨-, -, hpos⟩
    · exact ⟨0, hmem⟩
    · rcases List.countP_pos_iff.1 hpos with ⟨⟨i, x⟩, hx, hdeletes⟩
      exact ⟨i, eq_deletion_of_deletes hdeletes ▸ hx⟩
  rcases hdeleted with ⟨i, hi⟩
  have hatMost : (serve s requests schedule).log.countP (fun e => e.2.deletes id) ≤ 1 := by
    have honce := (failure_of_removals hs hstored (removals_of_ends hremove) schedule).1
    omega
  have hdeletes : (deletion id).deletes id := by
    simp [deletion, Exchange.deletes]
  refine ⟨i, ?_, ?_⟩
  · rcases hplace i (lt_length_of_mem_log_serve hi) with ⟨q, hq⟩
    rcases hcases i q hq with ⟨rfl, -⟩ | ⟨-, hnone, -⟩
    · exact ⟨.removed, hq⟩
    · exact absurd hi hnone
  · intro j q hne hq
    rcases hcases j q hq with ⟨-, hj⟩ | ⟨hfailed, -, -⟩
    · have hsame := eq_of_countP_le_one hatMost hi hj hdeletes hdeletes
      exact absurd (Prod.mk.inj hsame).1.symm hne
    · exact hfailed

end Serving

/-- Requests side by side over a store without failures on demand, after any calls in any order. Names
are distinct, and for each name of a controller creations and deletions balance with what is stored.
If requests only create, then each that returned finds all its objects stored as it made them, and no
two that returned have a name in common. If they only remove one deployment that was stored, and all
have ended, then exactly one returned, and the others answer that it is not there. -/
theorem requests_interleaved {s : Store} (hs : ∀ op, s.errors op = none) (hnames : s.DistinctNames)
    (requests : List Request) (schedule : List Nat) :
    let w := serve s requests schedule
    w.state.DistinctNames ∧
    (∀ name, s.stored name + w.log.countP (fun e => e.2.creates name) =
      w.state.stored name + w.log.countP (fun e => e.2.deletes name)) ∧
    ((∀ r ∈ requests, ∃ config batch, r = .create config batch) →
      (∀ i r, requests[i]? = some r → w.Returned i →
        (∀ c ∈ r.controllers, c ∈ w.state.controllers) ∧ ∀ v ∈ r.services, v ∈ w.state.services) ∧
      ∀ i j r r', requests[i]? = some r → requests[j]? = some r' → r.Shares r' →
        w.Returned i → w.Returned j → i = j) ∧
    ∀ id, s.HasController id → requests ≠ [] →
      (∀ r ∈ requests, ∃ m, r = .remove m ∧ m.id = id ∧ m.Ends) → w.Ended →
      ∃ i, w.Returned i ∧ ∀ j q, j ≠ i → w.programs[j]? = some q →
        q = .fail (Removal.notFound id) := by
  intro w
  refine ⟨distinctNames_serve hs hnames schedule, stored_add_created hs schedule, ?_, ?_⟩
  · intro hcreate
    constructor
    · intro i r hr hreturned
      have hobjects := objects_of_creations hs hcreate schedule
      rcases entries_of_returned hr hreturned with ⟨hcontrollers, hservices⟩
      constructor
      · intro c hc
        rcases hcontrollers c hc with ⟨x, hx, hxc⟩
        change c ∈ (serve s requests schedule).state.controllers
        rw [hobjects.1]
        exact List.mem_append_right _ (List.mem_filterMap.2 ⟨(i, x), hx, hxc⟩)
      · intro v hv
        rcases hservices v hv with ⟨x, hx, hxv⟩
        change v ∈ (serve s requests schedule).state.services
        rw [hobjects.2]
        exact List.mem_append_right _ (List.mem_filterMap.2 ⟨(i, x), hx, hxv⟩)
    · intro i j r r' hr hr' hshares hi hj
      exact eq_of_returned hs hnames hcreate hr hr' hi hj hshares
  · intro id hstored hsome hremove hended
    exact exists_returned_of_removals hs hstored hsome hremove hended

/-- Two requests to remove one deployment. -/
def rivals : List Request := [.remove (.prompt "web"), .remove (.prompt "web")]

/-- They find the controller and list its network service in turn. Then the first one goes on to its
end, and the second one is told that there is nothing to update. -/
theorem requests_interleaved_rivals :
    let w := serve web.store rivals [0, 1, 0, 1, 0, 0, 0, 1, 1]
    (∀ op, web.store.errors op = none) ∧ web.store.DistinctNames ∧
      web.store.HasController "web" ∧ w.Ended ∧
      (∃ i, w.Returned i ∧ ∀ j q, j ≠ i → w.programs[j]? = some q →
        q = .fail (Removal.notFound "web")) := by
  intro w
  have hs : ∀ op, web.store.errors op = none := fun _ => rfl
  have hnames : web.store.DistinctNames := ⟨by decide, by decide⟩
  have hstored : web.store.HasController "web" := by decide
  have hprograms : w.programs = [.done .removed, .fail (Removal.notFound "web")] := by rfl
  have hended : w.Ended := by
    intro q hq c next
    rw [hprograms] at hq
    simp only [List.mem_cons, List.not_mem_nil, or_false] at hq
    rcases hq with rfl | rfl <;> simp
  have hremove : ∀ r ∈ rivals, ∃ m, r = .remove m ∧ m.id = "web" ∧ m.Ends := by
    intro r hr
    obtain rfl : r = .remove (.prompt "web") := by simpa [rivals] using hr
    exact ⟨_, rfl, rfl, Removal.ends_prompt "web"⟩
  rcases requests_interleaved hs hnames rivals [0, 1, 0, 1, 0, 0, 0, 1, 1] with ⟨-, -, -, hremovals⟩
  exact ⟨hs, hnames, hstored, hended,
    hremovals "web" hstored (by simp [rivals]) hremove hended⟩

end Lifecycle

end Stevedore
