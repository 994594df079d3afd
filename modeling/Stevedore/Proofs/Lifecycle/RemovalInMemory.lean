import Stevedore.Proofs.Backend.Names
import Stevedore.Proofs.Lifecycle.Removal
/-!
# Removing deployments from memory

The removal of a deployment takes its controller away and the network services whose label says that
they go with it. It starts at the controller: where none is found, everything stays, also network
services with that label. What several removals leave does not depend on their order.

Main definitions:

- `Store.without`: a store after the removal of some deployments.
- `Removal`: a request to remove a deployment.
- `Program.runEach`: programs one after the other, whatever the outcome of each.

Main results:

- Theorems `run_dismantle_of_stored` and `run_dismantle_of_not_stored`: the exact effect of a removal.
- Theorem `destroy_in_memory`: what a removal answers, what it takes away and what it leaves alone.
- Theorems `runEach_removals` and `runEach_handle_removals`: what a sequence of removals leaves.
- Theorem `outcomes_removals`: removals of different stored deployments succeed.
-/

namespace Stevedore

open Backend Cluster Program

/-! ## What a removal takes away -/

/-- The selector of a name selects what has this name as a label. -/
theorem Selector.forName_selects_iff (name : String) (labels : Option Labels) :
    (Selector.forName name).selects labels ↔
      labels.bind (·.get? serviceNameLabel) = some name := by
  have hterms : (Selector.forName name).terms.entries = [(serviceNameLabel, name)] := rfl
  simp [Selector.selects, hterms]

/-- The network service goes with the deployment of a name: its label says so, and it has a name by
which it can be deleted. -/
def Cluster.NetworkService.GoesWith (v : NetworkService) (name : String) : Prop :=
  v.metadata.name.isSome ∧ (Selector.forName name).selects v.metadata.labels

instance (v : NetworkService) (name : String) : Decidable (v.GoesWith name) :=
  inferInstanceAs (Decidable (_ ∧ _))

namespace Backend.Store

/-- The store after the removal of some deployments. Nothing goes with a deployment that is not
stored. -/
def without (s : Store) (ids : List String) : Store :=
  { s with
    controllers := s.controllers.filter fun c => ∀ id ∈ ids, c.metadata.name ≠ some id
    services := s.services.filter fun v => ∀ id ∈ ids, s.HasController id → ¬ v.GoesWith id }

section Without

variable (s : Store) (ids more : List String)

/-- A controller is left exactly if it has none of the ids. -/
theorem mem_controllers_without_iff (c : Controller) :
    c ∈ (s.without ids).controllers ↔
      c ∈ s.controllers ∧ ∀ id ∈ ids, c.metadata.name ≠ some id := by
  simp [without]

/-- A network service is left exactly if it goes with no stored deployment of the ids. -/
theorem mem_services_without_iff (v : NetworkService) :
    v ∈ (s.without ids).services ↔
      v ∈ s.services ∧ ∀ id ∈ ids, s.HasController id → ¬ v.GoesWith id := by
  simp [without]

/-- A deployment is left exactly if its id is none of the ids. -/
theorem hasController_without_iff (name : String) :
    (s.without ids).HasController name ↔ s.HasController name ∧ name ∉ ids := by
  constructor
  · rintro ⟨c, hc, hname⟩
    obtain ⟨hstored, hother⟩ := (mem_controllers_without_iff s ids c).1 hc
    exact ⟨⟨c, hstored, hname⟩, fun hmem => hother name hmem hname⟩
  · rintro ⟨⟨c, hstored, hname⟩, hkept⟩
    refine ⟨c, (mem_controllers_without_iff s ids c).2 ⟨hstored, ?_⟩, hname⟩
    intro id hid hsame
    rw [hname, Option.some.injEq] at hsame
    exact hkept (hsame ▸ hid)

/-- A removal changes the two lists of objects only. -/
theorem without_eq {s t : Store} {ids : List String}
    (hcontrollers : (s.without ids).controllers = t.controllers)
    (hservices : (s.without ids).services = t.services)
    (hothers : t = { s with controllers := t.controllers, services := t.services }) :
    s.without ids = t := by
  rw [hothers, ← hcontrollers, ← hservices]
  rfl

/-- Without any ids nothing goes. -/
theorem without_nil : s.without [] = s := by
  have hcontrollers : (s.without []).controllers = s.controllers := by
    refine List.filter_eq_self.2 fun c _ => ?_
    simp
  have hservices : (s.without []).services = s.services := by
    refine List.filter_eq_self.2 fun v _ => ?_
    simp
  exact without_eq hcontrollers hservices rfl

/-- Where no controller has a name, nothing is removed under it. -/
theorem without_of_not_stored {s : Store} {id : String} (h : ¬ s.HasController id) :
    s.without [id] = s := by
  have hcontrollers : (s.without [id]).controllers = s.controllers := by
    refine List.filter_eq_self.2 fun c hc => ?_
    have hother : c.metadata.name ≠ some id := fun hname => h ⟨c, hc, hname⟩
    simp [hother]
  have hservices : (s.without [id]).services = s.services := by
    refine List.filter_eq_self.2 fun v _ => ?_
    simp [h]
  exact without_eq hcontrollers hservices rfl

/-- What the removal of a stored deployment leaves: the controllers of other names, and the network
services that have no name or do not bear the label of the deployment. -/
theorem objects_without_singleton {s : Store} {id : String} (h : s.HasController id) :
    (s.without [id]).controllers = s.controllers.filter (fun c => c.metadata.name ≠ some id) ∧
      (s.without [id]).services = s.services.filter fun v =>
        ¬ (v.metadata.name.isSome ∧ v.metadata.labels.bind (·.get? serviceNameLabel) = some id) := by
  constructor
  · refine List.filter_congr fun c _ => ?_
    simp
  · refine List.filter_congr fun v _ => ?_
    rw [decide_eq_decide]
    simp [h, NetworkService.GoesWith, Selector.forName_selects_iff]

/-- Removals add up. -/
theorem without_without : (s.without ids).without more = s.without (ids ++ more) := by
  have hcontrollers : ((s.without ids).without more).controllers =
      (s.without (ids ++ more)).controllers := by
    unfold without
    rw [List.filter_filter]
    refine List.filter_congr fun c _ => ?_
    simp [or_imp, forall_and, Bool.and_comm]
  have hservices : ((s.without ids).without more).services =
      (s.without (ids ++ more)).services := by
    change ((s.services.filter _).filter fun v =>
      ∀ id ∈ more, (s.without ids).HasController id → ¬ v.GoesWith id) = s.services.filter _
    rw [List.filter_filter]
    refine List.filter_congr fun v _ => ?_
    simp only [hasController_without_iff, ← Bool.decide_and, decide_eq_decide]
    constructor
    · rintro ⟨hmore, hids⟩ id hid hstored
      by_cases hbefore : id ∈ ids
      · exact hids id hbefore hstored
      · have hafter : id ∈ more := (List.mem_append.1 hid).resolve_left hbefore
        exact hmore id hafter ⟨hstored, hbefore⟩
    · intro h
      refine ⟨?_, ?_⟩
      · intro id hid hstored
        exact h id (List.mem_append_right ids hid) hstored.1
      · intro id hid hstored
        exact h id (List.mem_append_left more hid) hstored
  exact without_eq hcontrollers hservices rfl

end Without

/-- Removals keep names distinct. -/
theorem DistinctNames.without {s : Store} (h : s.DistinctNames) (ids : List String) :
    (s.without ids).DistinctNames where
  controllers_nodup := h.controllers_nodup.sublist (List.filter_sublist.filterMap _)
  services_nodup := h.services_nodup.sublist (List.filter_sublist.filterMap _)

/-! ## The objects of one deployment -/

/-- The deletion of network services by their names. -/
theorem run_deleteServices (names : List String) (s : Store) :
    (forEach names Program.deleteService).run answer s =
      (.ok (names.map fun _ => ()),
        { s with services := s.services.filter fun v => ∀ n ∈ names, v.metadata.name ≠ some n }) := by
  induction names generalizing s with
  | nil =>
      have hall : (s.services.filter fun v => ∀ n ∈ ([] : List String), v.metadata.name ≠ some n) =
          s.services := by
        refine List.filter_eq_self.2 fun v _ => ?_
        simp
      rw [hall]
      rfl
  | cons name rest ih =>
      have hfirst : (Program.deleteService name).run answer s = (.ok (), (s.deleteService name).2) :=
        rfl
      have hrest : ((s.deleteService name).2.services.filter fun v =>
          ∀ n ∈ rest, v.metadata.name ≠ some n) =
            s.services.filter fun v => ∀ n ∈ name :: rest, v.metadata.name ≠ some n := by
        unfold deleteService
        rw [List.filter_filter]
        refine List.filter_congr fun v _ => ?_
        rw [Bool.eq_iff_iff]
        simp [and_comm]
      simp only [forEach, run_bind, hfirst, ih, hrest, run_done, List.map_cons]
      rfl

/-- A replaced controller is removed like the one before it. -/
theorem filter_replaceFirst {name : String} {new : Controller}
    (hnew : new.metadata.name = some name) (controllers : List Controller) :
    (replaceFirst name new controllers).filter (fun c => c.metadata.name != some name) =
      controllers.filter fun c => c.metadata.name != some name := by
  induction controllers with
  | nil => rfl
  | cons c rest ih =>
      unfold replaceFirst
      by_cases hc : c.metadata.name = some name
      · rw [if_pos hc, List.filter_cons_of_neg (by simp [hnew]),
          List.filter_cons_of_neg (by simp [hc])]
      · rw [if_neg hc, List.filter_cons_of_pos (by simpa using hc),
          List.filter_cons_of_pos (by simpa using hc), ih]

/-- Where names are distinct, the network services of a name that is listed for a deployment are
those that go with it. -/
theorem filter_listed {s : Store} (hs : s.DistinctNames) (id : String) :
    (s.services.filter fun v => ∀ n ∈ (s.services.filter fun w =>
      (Selector.forName id).selects w.metadata.labels).filterMap (·.metadata.name),
        v.metadata.name ≠ some n) = s.services.filter fun v => ¬ v.GoesWith id := by
  refine List.filter_congr fun v hv => ?_
  rw [decide_eq_decide]
  constructor
  · rintro hkept ⟨hnamed, hlabel⟩
    obtain ⟨name, hname⟩ := Option.isSome_iff_exists.1 hnamed
    refine hkept name (List.mem_filterMap.2 ⟨v, ?_, hname⟩) hname
    exact List.mem_filter.2 ⟨hv, hlabel⟩
  · intro hstays name hlisted hname
    obtain ⟨w, hw, hwname⟩ := List.mem_filterMap.1 hlisted
    obtain ⟨hstored, hlabel⟩ := List.mem_filter.1 hw
    obtain rfl : v = w := eq_of_nodup_filterMap hs.services_nodup hv hstored hname hwname
    exact hstays ⟨by simp [hname], hlabel⟩

/-- A controller that is stored is found. -/
theorem run_getController_of_stored {s : Store} {name : String} {c : Controller}
    (h : s.controller? name = some c) :
    (Program.getController name).run answer s = (.ok c, s) := by
  change (ofReply (s.getController name).1).run answer (s.getController name).2 = _
  unfold getController
  rw [h]
  rfl

/-- A name that no controller has is reported. -/
theorem answer_getController_of_not_stored {s : Store} {name : String}
    (h : ¬ s.HasController name) :
    answer (.getController name) s = (.error (controllerNotFound name), s) := by
  rw [← isSome_controller?_iff] at h
  have hnone : s.controller? name = none := by simpa using h
  change s.getController name = _
  unfold getController
  rw [hnone]
  rfl

/-- A controller that is not stored is not found. -/
theorem run_getController_of_not_stored {s : Store} {name : String} (h : ¬ s.HasController name) :
    (Program.getController name).run answer s =
      (.error (.error (controllerNotFound name).toError), s) := by
  change (ofReply (answer (.getController name) s).1).run answer _ = _
  rw [answer_getController_of_not_stored h]
  rfl

end Backend.Store

namespace Lifecycle

variable {s : Store} {id : String}

/-- Where no controller has the name, nothing is removed. -/
theorem run_dismantle_of_not_stored (h : ¬ s.HasController id) :
    (dismantle id).run Store.answer s =
      (.error (.error (.notFound (Store.controllerNotFound id).message)), s) := by
  unfold dismantle
  rw [run_bind, Store.run_getController_of_not_stored h]
  rfl

/-- Where no controller has the name, one call is made: to look for it. -/
theorem transcript_dismantle_of_not_stored (h : ¬ s.HasController id) :
    (dismantle id).transcript Store.answer s =
      [⟨.getController id, .error (Store.controllerNotFound id)⟩] := by
  have hlookup : (getController id).transcript Store.answer s =
      [⟨.getController id, .error (Store.controllerNotFound id)⟩] := by
    rw [(asks_getController id).transcript_eq, Store.answer_getController_of_not_stored h]
  unfold dismantle
  rw [transcript_bind, hlookup, Store.run_getController_of_not_stored h, List.append_nil]

/-- Otherwise the controller goes, and the network services that go with it. -/
theorem run_dismantle_of_stored (hs : s.DistinctNames) (h : s.HasController id) :
    (dismantle id).run Store.answer s = (.ok (.forName id), s.without [id]) := by
  have hsome := (Store.isSome_controller?_iff s id).2 h
  obtain ⟨c, hc⟩ := Option.isSome_iff_exists.1 hsome
  have hname := Store.name_of_controller? hc
  have hkey : nameOf id c = id := by simp [nameOf, hname]
  have hget := Store.run_getController_of_stored hc
  let listed := s.services.filter fun v => (Selector.forName id).selects v.metadata.labels
  let cleared : Store := { s with services := s.services.filter fun v => ¬ v.GoesWith id }
  have hlist : (listServices (.forName id)).run Store.answer s = (.ok listed, s) := rfl
  have hdelete : (forEach (listed.filterMap (·.metadata.name)) deleteService).run Store.answer s =
      (.ok ((listed.filterMap (·.metadata.name)).map fun _ => ()), cleared) := by
    rw [Store.run_deleteServices, Store.filter_listed hs]
  let scaled : Store := { cleared with
    controllers := Store.replaceFirst id (c.scaledTo 0) s.controllers }
  have hscaled : (c.scaledTo 0).metadata.name = some id := hname
  have hupdate : (updateController (c.scaledTo 0)).run Store.answer cleared =
      (.ok (c.scaledTo 0), scaled) := by
    change (ofReply (cleared.updateController (c.scaledTo 0)).1).run Store.answer
      (cleared.updateController (c.scaledTo 0)).2 = _
    unfold Store.updateController
    rw [Controller.nameOrEmpty_of_name hscaled, if_pos (show (cleared.controller? id).isSome from hsome)]
    rfl
  have hfound : (scaled.controller? id).isSome := by
    have hreplaced := Store.find?_replaceFirst hscaled hsome
    unfold Store.controller?
    rw [hreplaced]
    rfl
  have hremove : (deleteController id).run Store.answer scaled = (.ok (), s.without [id]) := by
    have hcontrollers : (scaled.controllers.filter fun c => c.metadata.name != some id) =
        (s.without [id]).controllers := by
      refine (Store.filter_replaceFirst hscaled s.controllers).trans ?_
      refine List.filter_congr fun c _ => ?_
      rw [Bool.eq_iff_iff]
      simp
    have hservices : cleared.services = (s.without [id]).services := by
      refine List.filter_congr fun v _ => ?_
      simp [h]
    change (ofReply (scaled.deleteController id).1).run Store.answer
      (scaled.deleteController id).2 = _
    unfold Store.deleteController
    rw [if_pos hfound, hcontrollers]
    simp only [ofReply, run_done, scaled]
    rw [hservices]
    rfl
  unfold dismantle
  simp only [run_bind, hget, hkey, hlist, hdelete, hupdate, hremove]
  rfl

end Lifecycle

/-! ## Waiting -/

namespace Backend.Store

/-- The stores hold the same objects but for the pods. -/
def SameButPods (s t : Store) : Prop :=
  ∃ pods listingsLeft, t = { s with pods := pods, listingsLeft := listingsLeft }

namespace SameButPods

variable {s t u : Store}

theorem refl (s : Store) : SameButPods s s :=
  ⟨s.pods, s.listingsLeft, rfl⟩

theorem trans (hst : SameButPods s t) (htu : SameButPods t u) : SameButPods s u := by
  obtain ⟨pods, left, rfl⟩ := hst
  obtain ⟨pods', left', rfl⟩ := htu
  exact ⟨pods', left', rfl⟩

theorem controllers_eq (h : SameButPods s t) : t.controllers = s.controllers := by
  obtain ⟨pods, left, rfl⟩ := h
  rfl

theorem services_eq (h : SameButPods s t) : t.services = s.services := by
  obtain ⟨pods, left, rfl⟩ := h
  rfl

theorem errors_eq (h : SameButPods s t) : t.errors = s.errors := by
  obtain ⟨pods, left, rfl⟩ := h
  rfl

/-- The same deployments are there. -/
theorem hasController_iff (h : SameButPods s t) (name : String) :
    t.HasController name ↔ s.HasController name := by
  unfold HasController
  rw [h.controllers_eq]

/-- The names are as distinct as before. -/
theorem distinctNames (h : SameButPods s t) (hs : s.DistinctNames) : t.DistinctNames := by
  obtain ⟨pods, left, rfl⟩ := h
  exact ⟨hs.controllers_nodup, hs.services_nodup⟩

/-- What a removal takes away does not depend on the pods. -/
theorem without (h : SameButPods s t) (ids : List String) :
    SameButPods (s.without ids) (t.without ids) := by
  obtain ⟨pods, left, rfl⟩ := h
  exact ⟨pods, left, rfl⟩

end SameButPods

/-- Listing pods changes nothing but the pods. -/
theorem sameButPods_listPods (s : Store) (selector : Selector) :
    SameButPods s (answer (.listPods selector) s).2 := by
  change SameButPods s (s.listPods selector).2
  unfold listPods
  cases h : s.listingsLeft with
  | none => exact .refl s
  | some n =>
      cases n with
      | zero => exact ⟨[], s.listingsLeft, by simp [h]⟩
      | succ n => exact ⟨s.pods, some n, rfl⟩

/-- Looking at the pods changes nothing else. -/
theorem sameButPods_replay {t : List Exchange} {selector : Selector}
    (ht : ∀ x ∈ t, x.call = .listPods selector) (s : Store) :
    SameButPods s (replay answer s t) := by
  induction t generalizing s with
  | nil => exact .refl s
  | cons x rest ih =>
      rw [List.forall_mem_cons] at ht
      have hfirst := sameButPods_listPods s selector
      rw [← ht.1] at hfirst
      exact hfirst.trans (ih ht.2 (answer x.call s).2)

end Backend.Store

/-- A wait only lists pods, also one whose end cannot be represented. -/
theorem Teardown.listPods_of_wait (handler : Handler σ) (s : σ) (clock : Clock pause)
    (selector : Selector) (timeout : Duration) :
    ∀ x ∈ (Teardown.wait clock selector timeout).transcript handler s,
      x.call = .listPods selector := by
  cases hend : Teardown.deadline? clock.start timeout with
  | none =>
      unfold Teardown.wait
      rw [hend]
      split <;> simp
  | some deadline =>
      have hrepresented : Teardown.deadline? clock.start timeout ≠ none := by simp [hend]
      exact (Lifecycle.wait_looks handler s clock selector hrepresented).1

/-- A wait changes nothing but the pods. -/
theorem Teardown.sameButPods_wait (clock : Clock pause) (selector : Selector) (timeout : Duration)
    (s : Store) : Store.SameButPods s ((Teardown.wait clock selector timeout).run Store.answer s).2 := by
  rw [run_snd]
  exact Store.sameButPods_replay
    (Teardown.listPods_of_wait Store.answer s clock selector timeout) s

/-! ## Single removals -/

/-- A request to remove a deployment: the configuration, the readings of the clock while it waits, and
the id. -/
abbrev Removal : Type := (config : Config) × Clock config.pollInterval.toNanos × String

namespace Removal

/-- The configuration of the removal. -/
def config (r : Removal) : Config := r.1

/-- The readings of the clock while the removal waits. -/
def clock (r : Removal) : Clock r.config.pollInterval.toNanos := r.2.1

/-- The id of the deployment to remove. -/
def id (r : Removal) : String := r.2.2

/-- What is done on the request. -/
def program (r : Removal) : Program Unit := Lifecycle.destroy r.config r.clock r.id

/-- The end of the wait is a moment that can be represented. -/
def Ends (r : Removal) : Prop :=
  Teardown.deadline? r.clock.start r.config.teardownTimeout ≠ none

/-- The removal of a deployment that does not wait for its pods. -/
def prompt (id : String) : Removal :=
  let config : Config := { teardownTimeout := .ofSeconds 0 }
  ⟨config, Clock.steady config.pollInterval.toNanos 0 0, id⟩

/-- A removal that does not wait has an end. -/
theorem ends_prompt (id : String) : (prompt id).Ends := by
  have hend : Teardown.deadline? 0 (.ofSeconds 0) ≠ none := by decide
  exact hend

/-- The answer where no controller has the name. -/
def notFound (id : String) : Failure :=
  .error (.notFound (Store.controllerNotFound id).message)

variable {s : Store}

/-- A removal leaves the store without the deployment, whether it was there or not. -/
theorem sameButPods_run (r : Removal) (hs : s.DistinctNames) :
    Store.SameButPods (s.without [r.id]) (r.program.run Store.answer s).2 := by
  unfold program Lifecycle.destroy
  rw [run_bind]
  by_cases hstored : s.HasController r.id
  · rw [Lifecycle.run_dismantle_of_stored hs hstored]
    exact Teardown.sameButPods_wait _ _ _ _
  · rw [Lifecycle.run_dismantle_of_not_stored hstored, Store.without_of_not_stored hstored]
    exact .refl s

/-- The removal of a deployment that is not stored does nothing but look for it. -/
theorem transcript_of_not_stored (r : Removal) (h : ¬ s.HasController r.id) :
    r.program.transcript Store.answer s =
      [⟨.getController r.id, .error (Store.controllerNotFound r.id)⟩] := by
  unfold program Lifecycle.destroy
  rw [transcript_bind, Lifecycle.run_dismantle_of_not_stored h,
    Lifecycle.transcript_dismantle_of_not_stored h, List.append_nil]

/-- The removal of a deployment that is not stored changes nothing. -/
theorem run_of_not_stored (r : Removal) (h : ¬ s.HasController r.id) :
    r.program.run Store.answer s = (.error (notFound r.id), s) := by
  unfold program Lifecycle.destroy
  rw [run_bind, Lifecycle.run_dismantle_of_not_stored h]
  rfl

/-- A removal succeeds if the deployment is there, and otherwise says that it is not. -/
theorem run_fst (r : Removal) (hend : r.Ends) (hs : s.DistinctNames) :
    (r.program.run Store.answer s).1 =
      if s.HasController r.id then .ok () else .error (notFound r.id) := by
  unfold program Lifecycle.destroy
  rw [run_bind]
  by_cases hstored : s.HasController r.id
  · rw [Lifecycle.run_dismantle_of_stored hs hstored, if_pos hstored]
    exact (Lifecycle.wait_looks Store.answer _ r.clock _ hend).2
  · rw [Lifecycle.run_dismantle_of_not_stored hstored, if_neg hstored]
    rfl

end Removal

namespace Lifecycle

/-- The removal of a deployment from memory. One that is not stored is looked for, and nothing else
happens. Otherwise the controller goes, and the network services that have a name and bear the label
of the deployment. The order of what stays is kept. Other objects are not touched, also network
services without name or labels, and those that only have the name of the deployment. -/
theorem destroy_in_memory (hs : ∀ op, s.errors op = none) (hnames : s.DistinctNames)
    (r : Removal) :
    let outcome := (r.program.run Store.handle s).1
    let left := (r.program.run Store.handle s).2
    (¬ s.HasController r.id →
      outcome = .error (Removal.notFound r.id) ∧ left = s ∧
      r.program.transcript Store.handle s =
        [⟨.getController r.id, .error (Store.controllerNotFound r.id)⟩]) ∧
    (s.HasController r.id →
      (r.Ends → outcome = .ok ()) ∧
      left.controllers = s.controllers.filter (fun c => c.metadata.name ≠ some r.id) ∧
      left.services = s.services.filter fun v =>
        ¬ (v.metadata.name.isSome ∧
          v.metadata.labels.bind (·.get? serviceNameLabel) = some r.id)) ∧
    (∀ c ∈ s.controllers, c.metadata.name ≠ some r.id → c ∈ left.controllers) ∧
    ∀ v ∈ s.services, v.metadata.name = none ∨
      v.metadata.labels.bind (·.get? serviceNameLabel) ≠ some r.id → v ∈ left.services := by
  rcases Store.run_handle hs r.program with ⟨hrun, htranscript⟩
  rw [hrun, htranscript]
  intro outcome left
  by_cases hstored : s.HasController r.id
  · have hleft : Store.SameButPods (s.without [r.id]) left := r.sameButPods_run hnames
    obtain ⟨hcontrollers, hservices⟩ := Store.objects_without_singleton hstored
    rw [← hleft.controllers_eq] at hcontrollers
    rw [← hleft.services_eq] at hservices
    refine ⟨fun hnone => absurd hstored hnone, fun _ => ⟨?_, hcontrollers, hservices⟩, ?_, ?_⟩
    · intro hend
      have houtcome : outcome = _ := r.run_fst hend hnames
      rw [houtcome, if_pos hstored]
    · intro c hc hother
      rw [hcontrollers]
      exact List.mem_filter.2 ⟨hc, by simpa using hother⟩
    · intro v hv hother
      rw [hservices]
      refine List.mem_filter.2 ⟨hv, ?_⟩
      rcases hother with hunnamed | hunlabelled
      · simp [hunnamed]
      · simp [hunlabelled]
  · have hleft : left = s := congrArg (·.2) (r.run_of_not_stored hstored)
    have houtcome : outcome = .error (Removal.notFound r.id) :=
      congrArg (·.1) (r.run_of_not_stored hstored)
    refine ⟨fun _ => ⟨houtcome, hleft, r.transcript_of_not_stored hstored⟩,
      fun h => absurd h hstored, ?_, ?_⟩
    · intro c hc _
      rw [hleft]
      exact hc
    · intro v hv _
      rw [hleft]
      exact hv

/-- A store with objects that have to do with one name in different ways. -/
def tangled : Store where
  controllers := [{ metadata := { name := some "db" } }, {}, { metadata := { name := some "web" } }]
  services := [
    { metadata := { name := some "web" } },
    { metadata := { name := some "www", labels := some (.single serviceNameLabel "web") } },
    { metadata := { labels := some (.single serviceNameLabel "web") } },
    { metadata := { name := some "db", labels := some (.single serviceNameLabel "db") } }]

/-- Two controllers and three network services stay: those of another name, those without name, and
one without label. -/
theorem destroy_in_memory_tangled :
    let left := ((Removal.prompt "web").program.run Store.handle tangled).2
    (∀ op, tangled.errors op = none) ∧ tangled.DistinctNames ∧ tangled.HasController "web" ∧
      (Removal.prompt "web").Ends ∧
      ((Removal.prompt "web").program.run Store.handle tangled).1 = .ok () ∧
      left.controllers = tangled.controllers.take 2 ∧
      left.services.map (·.metadata.name) = [some "web", none, some "db"] := by
  intro left
  have hs : ∀ op, tangled.errors op = none := fun _ => rfl
  have hnames : tangled.DistinctNames := ⟨by decide, by decide⟩
  have hstored : tangled.HasController "web" := by decide
  obtain ⟨-, heffect, -⟩ := destroy_in_memory hs hnames (Removal.prompt "web")
  obtain ⟨hok, hcontrollers, hservices⟩ := heffect hstored
  refine ⟨hs, hnames, hstored, Removal.ends_prompt "web", hok (Removal.ends_prompt "web"), ?_, ?_⟩
  · exact hcontrollers.trans (by decide)
  · rw [hservices]
    decide

end Lifecycle

/-! ## Sequences of removals -/

/-- Runs programs one after the other, whatever the outcome of each. -/
def Program.runEach (handler : Handler σ) : List (Program α) → σ → List (Except Failure α) × σ
  | [], s => ([], s)
  | p :: rest, s =>
    let first := p.run handler s
    let others := runEach handler rest first.2
    (first.1 :: others.1, others.2)

variable {s : Store}

/-- Without failures on demand a sequence of runs goes by the answers alone. -/
theorem runEach_handle (hs : ∀ op, s.errors op = none) (programs : List (Program α)) :
    runEach Store.handle programs s = runEach Store.answer programs s := by
  induction programs generalizing s with
  | nil => rfl
  | cons p rest ih =>
      have hfirst := (Store.run_handle hs p).1
      have hkept : (p.run Store.answer s).2.errors = s.errors :=
        run_invariant (I := fun t => t.errors = s.errors)
          (fun c t ht => (Store.errors_answer c t).trans ht) p rfl
      have hrest := ih (s := (p.run Store.answer s).2) (by rwa [hkept])
      simp only [runEach, hfirst, hrest]

/-- A sequence of removals leaves the store without the deployments of all its ids. -/
theorem runEach_removals (removals : List Removal) (hs : s.DistinctNames) :
    Store.SameButPods (s.without (removals.map (·.id)))
      (runEach Store.answer (removals.map (·.program)) s).2 := by
  induction removals generalizing s with
  | nil =>
      rw [List.map_nil, Store.without_nil]
      exact .refl s
  | cons r rest ih =>
      have hfirst := r.sameButPods_run hs
      have hrest := ih (hfirst.distinctNames (hs.without [r.id]))
      have hboth := (hfirst.without (rest.map (·.id))).trans hrest
      rw [Store.without_without] at hboth
      exact hboth

/-- Removals one after the other leave what no id of them stands for. -/
theorem runEach_handle_removals (hs : ∀ op, s.errors op = none) (hnames : s.DistinctNames)
    (removals : List Removal) :
    Store.SameButPods (s.without (removals.map (·.id)))
      (runEach Store.handle (removals.map (·.program)) s).2 := by
  rw [runEach_handle hs]
  exact runEach_removals removals hnames

/-- Removals of different deployments, all of which are stored, succeed. -/
theorem outcomes_removals {removals : List Removal} (hs : s.DistinctNames)
    (hends : ∀ r ∈ removals, r.Ends) (hids : (removals.map (·.id)).Nodup)
    (hstored : ∀ r ∈ removals, s.HasController r.id) :
    ∀ outcome ∈ (runEach Store.answer (removals.map (·.program)) s).1, outcome = .ok () := by
  induction removals generalizing s with
  | nil => simp [runEach]
  | cons r rest ih =>
      rw [List.forall_mem_cons] at hends hstored
      rw [List.map_cons, List.nodup_cons] at hids
      have hfirst := r.sameButPods_run hs
      have hothers : ∀ q ∈ rest, (r.program.run Store.answer s).2.HasController q.id := by
        intro q hq
        rw [hfirst.hasController_iff, Store.hasController_without_iff]
        refine ⟨hstored.2 q hq, ?_⟩
        intro hsame
        rw [List.mem_singleton] at hsame
        exact hids.1 (hsame ▸ List.mem_map_of_mem hq)
      have hrest := ih (hfirst.distinctNames (hs.without [r.id])) hends.2 hids.2 hothers
      change ∀ outcome ∈ (r.program.run Store.answer s).1 :: _, outcome = .ok ()
      rw [List.forall_mem_cons, r.run_fst hends.1 hs, if_pos hstored.1]
      exact ⟨rfl, hrest⟩

end Stevedore
