import Stevedore.Proofs.Adapter.Actions
import Stevedore.Proofs.Name
/-!
# What the adapter leaves in a store

A store that was empty at first, and that only the adapter has changed, holds nothing but workloads of
services and network services as the resolver makes them. Failures do not alter that: a creation stops
after a first part of its objects, and a removal may leave a controller that was scaled down, which is
the only trace of it. So as long as nothing fails every deployment is pending.

Main definitions:

- `Controller.Awaits` and `Controller.Drained`: the controllers in such a store.
- `NetworkService.Exposes`: the network services in it.
- `Managed`: what holds of all objects of such a store.
- `Abandons` and `Abandoned`: a removal scaled the controller down and failed.

Main results:

- Theorem `Managed.run`: every operation keeps this.
- Theorem `abandoned_of_desired?_eq_zero`: a controller that asks for no pods was abandoned.
- Theorem `records_pending`: records of such a store say that the deployment is pending.
- Theorem `objects_of_perform`: all of this for any sequence of operations.
-/

namespace Stevedore

open Backend Cluster Program Lifecycle

/-! ## The objects of the adapter -/

/-- The controller runs a service, and none of its pods were observed. -/
def Cluster.Controller.Awaits (c : Controller) : Prop :=
  ∃ b : Service, c = Workload.unobserved b

/-- The same, but it asks for no pods any more. -/
def Cluster.Controller.Drained (c : Controller) : Prop :=
  ∃ b : Service, c = { Workload.unobserved b with
    spec := some { (Workload.controller b).spec.getD {} with replicas := some 0 } }

/-- The number can be that of a port. -/
def Cluster.IsPortNumber (n : Int32) : Prop := 0 ≤ n.toInt ∧ n.toInt ≤ 65535

/-- A network service for a sanitized name, with one port. -/
structure Cluster.NetworkService.Exposes (v : NetworkService) (name : String) : Prop where
  name_eq : v.metadata.name = some name
  sanitized : Name.sanitize name = name
  labels_eq : v.metadata.labels = some (.single serviceNameLabel name)
  spec_eq : ∃ spec port target, v.spec = some spec ∧
    spec.selector = some (.single applicationLabel applicationLabel) ∧
    spec.ports = some [port] ∧ port.targetPort = some (.number target) ∧
    IsPortNumber port.port ∧ IsPortNumber target

namespace Cluster.Controller

theorem scaledTo_scaledTo (c : Controller) (n m : Int32) : (c.scaledTo n).scaledTo m = c.scaledTo m :=
  rfl

/-- A workload that awaits its pods asks for at least one. -/
theorem Awaits.desired?_ne_zero {c : Controller} (h : c.Awaits) : c.desired? ≠ some 0 := by
  obtain ⟨b, rfl⟩ := h
  have hpos := replicas_pos b.replication
  intro hzero
  have hreplicas : Workload.replicas b.replication = 0 := Option.some.inj hzero
  rw [hreplicas] at hpos
  exact absurd hpos (by decide)

/-- A workload that is scaled down asks for no pods, whether it did before or not. -/
theorem Awaits.drained_scaledTo {c : Controller} (h : c.Awaits ∨ c.Drained) :
    (c.scaledTo 0).Drained := by
  rcases h with ⟨b, rfl⟩ | ⟨b, rfl⟩
  · exact ⟨b, rfl⟩
  · exact ⟨b, scaledTo_scaledTo _ 0 0⟩

/-- Every controller of the adapter has a name. -/
theorem name_isSome_of_managed {c : Controller} (h : c.Awaits ∨ c.Drained) :
    c.metadata.name.isSome := by
  rcases h with ⟨b, rfl⟩ | ⟨b, rfl⟩ <;> rfl

/-- The record of a workload that awaits its pods says so. -/
theorem Awaits.recordOf_eq {c : Controller} (h : c.Awaits) :
    recordOf c = done ⟨c.nameOrEmpty, "pending"⟩ := by
  obtain ⟨b, rfl⟩ := h
  exact recordOf_unobserved b

end Cluster.Controller

/-- A number of 16 bits can be that of a port. -/
theorem isPortNumber_portNumber (port : UInt16) : IsPortNumber (portNumber port) := by
  have hlt : port.toNat < 65536 := port.toNat_lt
  unfold IsPortNumber
  rw [Exposure.toInt_portNumber]
  omega

namespace Exposure

/-- A network service for a sanitized name and a port is as the resolver makes it. -/
theorem exposes_networkService (externalIps : List String) {name : String}
    (hname : Name.sanitize name = name) (p : Port) :
    (networkService externalIps name p).Exposes name where
  name_eq := rfl
  sanitized := hname
  labels_eq := rfl
  spec_eq := by
    refine ⟨_, _, _, rfl, rfl, rfl, rfl, isPortNumber_portNumber _, isPortNumber_portNumber _⟩

/-- The names of a resolved batch are sanitized. -/
theorem exposes_of_resolve {externalIps : List String} {batch : List Service}
    {services : List NetworkService} (h : resolve externalIps batch = .ok services)
    {v : NetworkService} (hv : v ∈ services) : ∃ name, v.Exposes name := by
  obtain ⟨added, -, hadded, rfl⟩ := resolve_eq_ok h
  obtain ⟨⟨name, p⟩, hentry, rfl⟩ := List.mem_map.1 hv
  refine ⟨name, exposes_networkService externalIps ?_ p⟩
  rcases List.mem_append.1 hentry with hown | halias
  · obtain ⟨b, -, -, hname⟩ := (mem_ownNames_iff batch _).1 hown
    rw [← hname, Name.sanitize_sanitize]
  · obtain ⟨l, -, hname, -⟩ := link_of_mem_aliasNames hadded halias
    rw [← hname]
    exact Name.sanitize_sanitize l.aliasName

end Exposure

namespace Adapter

/-- What holds of the objects of a store that only the adapter has changed. -/
structure Managed (s : Store) : Prop where
  distinct : s.DistinctNames
  controllers : ∀ c ∈ s.controllers, c.Awaits ∨ c.Drained
  services : ∀ v ∈ s.services, ∃ name, v.Exposes name

namespace Managed

/-- An empty store holds nothing but objects of the adapter. -/
theorem of_empty {s : Store} (hcontrollers : s.controllers = []) (hservices : s.services = []) :
    Managed s where
  distinct := by
    constructor
    · simp [Store.controllerNames, hcontrollers]
    · simp [Store.serviceNames, hservices]
  controllers := by simp [hcontrollers]
  services := by simp [hservices]

end Managed

/-- The network services that a creation stores expose sanitized names. -/
theorem begun_exposes {config : Config} {batch created : List Service} {added : List NetworkService}
    (h : Begun config batch added created) {v : NetworkService} (hv : v ∈ added) :
    ∃ name, v.Exposes name := by
  obtain ⟨services, hresolve, hmem⟩ := h.exists_resolve hv
  exact Exposure.exposes_of_resolve hresolve hmem

/-- A removal fails after it had a controller scaled down: the update that put this one in its place
was accepted. -/
structure Abandons (s : Store) (r : Removal) (c : Controller) : Prop where
  name_eq : c.metadata.name = some r.id
  failed : ∃ e, (r.program.run Store.handle s).1 = .error (.error e)
  scaled : ∃ updated, ⟨.updateController c, .ok updated⟩ ∈ r.program.transcript Store.handle s

/-- Where a controller of a store comes from after an operation: it was there before, it was just
created, or the operation is a removal that abandoned it. -/
theorem controllers_of_effect {s t : Store} {a : Action} (hs : Managed s) (h : Effect s a t)
    {c : Controller} (hc : c ∈ t.controllers) :
    c ∈ s.controllers ∨ c.Awaits ∨
      ∃ r, a = .destroy r ∧ c.Drained ∧ Abandons s r c := by
  cases h with
  | looked h =>
      rw [h.controllers_eq] at hc
      exact .inl hc
  | created h =>
      rcases List.mem_append.1 hc with hc | hc
      · exact .inl hc
      · obtain ⟨b, -, rfl⟩ := List.mem_map.1 hc
        exact .inr (.inl ⟨b, rfl⟩)
  | destroyed h =>
      rw [h.controllers_eq] at hc
      exact .inl (List.mem_filter.1 hc).1
  | @interrupted r _ e hfailed hpart =>
      rcases hpart.controllers with hsame | ⟨d, updated, hd, hscaled, hmem⟩
      · rw [hsame] at hc
        exact .inl hc
      · rw [hscaled] at hc
        rcases Store.mem_replaceFirst hc with rfl | hc
        · have hname := Store.name_scaledTo_of_controller? hd 0
          have hstored : d ∈ s.controllers := List.mem_of_find?_eq_some hd
          have hdrained := Controller.Awaits.drained_scaledTo (hs.controllers d hstored)
          exact .inr (.inr ⟨r, rfl, hdrained, hname, ⟨e, hfailed⟩, ⟨updated, hmem⟩⟩)
        · exact .inl hc

/-- Every network service after an operation was there before or is for a sanitized name. -/
theorem services_of_effect {s t : Store} {a : Action} (h : Effect s a t) {v : NetworkService}
    (hv : v ∈ t.services) : v ∈ s.services ∨ ∃ name, v.Exposes name := by
  cases h with
  | looked h =>
      rw [h.services_eq] at hv
      exact .inl hv
  | created h =>
      rcases List.mem_append.1 hv with hv | hv
      · exact .inl hv
      · exact .inr (begun_exposes h hv)
  | destroyed h =>
      rw [h.services_eq] at hv
      exact .inl (List.mem_filter.1 hv).1
  | interrupted hfailed hpart => exact .inl (hpart.services_sublist.subset hv)

/-- Every operation leaves such a store. -/
theorem Managed.run {s : Store} (hs : Managed s) (a : Action) :
    Managed (a.program.run Store.handle s).2 where
  distinct := Store.distinctNames_run a.program hs.distinct
  controllers c hc := by
    rcases controllers_of_effect hs (effect_run hs.distinct a) hc with
      hbefore | hawaits | ⟨r, -, hdrained, -⟩
    · exact hs.controllers c hbefore
    · exact .inl hawaits
    · exact .inr hdrained
  services v hv := by
    rcases services_of_effect (effect_run hs.distinct a) hv with hbefore | hexposes
    · exact hs.services v hbefore
    · exact hexposes

/-- Operations one after the other leave nothing but objects of the adapter. -/
theorem Managed.perform {s : Store} (hs : Managed s) (actions : List Action) :
    Managed (s.perform actions).2 := by
  induction actions using List.reverseRecOn with
  | nil => exact hs
  | append_singleton before a ih =>
      rw [Store.perform_concat]
      exact ih.run a

/-! ## Controllers that were scaled down -/

/-- In a sequence of operations a removal abandoned the controller, which was stored ever since. -/
def Abandoned (s : Store) (actions : List Action) (c : Controller) : Prop :=
  ∃ before r after, actions = before ++ .destroy r :: after ∧ Abandons (s.perform before).2 r c ∧
    ∀ more, more <+: after → c ∈ (s.perform (before ++ .destroy r :: more)).2.controllers

/-- What was abandoned stays so after one more operation, if it is still stored. -/
theorem Abandoned.concat {s : Store} {actions : List Action} {c : Controller}
    (h : Abandoned s actions c) {a : Action}
    (hstored : c ∈ (s.perform (actions ++ [a])).2.controllers) :
    Abandoned s (actions ++ [a]) c := by
  obtain ⟨before, r, after, rfl, habandons, hsince⟩ := h
  refine ⟨before, r, after ++ [a], by simp, habandons, ?_⟩
  intro more hmore
  rcases List.prefix_concat_iff.1 hmore with rfl | hprefix
  · simpa using hstored
  · exact hsince more hprefix

/-- A controller that asks for no pods was abandoned by a removal. -/
theorem abandoned_of_desired?_eq_zero {s : Store} (hcontrollers : s.controllers = [])
    (hservices : s.services = []) {actions : List Action} {c : Controller}
    (hc : c ∈ (s.perform actions).2.controllers) (hzero : c.desired? = some 0) :
    Abandoned s actions c := by
  induction actions using List.reverseRecOn with
  | nil =>
      change c ∈ s.controllers at hc
      rw [hcontrollers] at hc
      contradiction
  | append_singleton before a ih =>
      have hmanaged := (Managed.of_empty hcontrollers hservices).perform before
      have hstored := hc
      rw [Store.perform_concat] at hc
      rcases controllers_of_effect hmanaged (effect_run hmanaged.distinct a) hc with
        hbefore | hawaits | ⟨r, rfl, -, habandons⟩
      · exact (ih hbefore).concat hstored
      · exact absurd hzero hawaits.desired?_ne_zero
      · refine ⟨before, r, [], rfl, habandons, ?_⟩
        intro more hmore
        rw [List.prefix_nil.1 hmore]
        exact hstored

/-- Where no call fails on demand, no removal abandons a controller. -/
theorem not_abandons {s : Store} (hs : ∀ op, s.errors op = none) (hnames : s.DistinctNames)
    (r : Removal) (c : Controller) : ¬ Abandons s r c := by
  rintro ⟨-, ⟨e, hfailed⟩, updated, hscaled⟩
  obtain ⟨hrun, htranscript⟩ := Store.run_handle hs r.program
  rw [hrun, r.run_fst_eq_ending hnames] at hfailed
  by_cases hstored : s.HasController r.id
  · rw [if_pos hstored] at hfailed
    exact r.ending_ne_error e hfailed
  · rw [htranscript, r.transcript_of_not_stored hstored] at hscaled
    have hcall := congrArg Exchange.call (List.mem_singleton.1 hscaled)
    contradiction

/-! ## Records -/

/-- Where nothing fails, all controllers await their pods. -/
theorem awaits_of_perform {s : Store} (hcontrollers : s.controllers = [])
    (hservices : s.services = []) (hs : ∀ op, s.errors op = none) (actions : List Action) :
    ∀ c ∈ (s.perform actions).2.controllers, c.Awaits := by
  intro c hc
  have hmanaged := Managed.of_empty hcontrollers hservices
  rcases (hmanaged.perform actions).controllers c hc with hawaits | ⟨b, rfl⟩
  · exact hawaits
  · obtain ⟨before, r, -, -, habandons, -⟩ :=
      abandoned_of_desired?_eq_zero hcontrollers hservices hc rfl
    have herrors : ∀ op, (s.perform before).2.errors op = none := by
      rw [Store.errors_perform]
      exact hs
    exact absurd habandons (not_abandons herrors (hmanaged.perform before).distinct r _)

/-- A loop whose items all return a value without any call returns these values. -/
theorem forEach_eq_done {body : α → Program β} {value : α → β} {items : List α}
    (h : ∀ a ∈ items, body a = done (value a)) : forEach items body = done (items.map value) := by
  induction items with
  | nil => rfl
  | cons a rest ih =>
      rw [List.forall_mem_cons] at h
      unfold forEach
      rw [h.1, ih h.2]
      rfl

/-- Where all controllers await their pods and no call fails on demand, every record says that the
deployment is pending. -/
theorem records_pending {s : Store} (hs : ∀ op, s.errors op = none)
    (hawait : ∀ c ∈ s.controllers, c.Awaits) {a : Action} {answer : Answer}
    (h : (a.program.run Store.handle s).1 = .ok answer) :
    ∀ d ∈ answer.records, d.state = "pending" := by
  rw [(Store.run_handle hs a.program).1] at h
  cases a with
  | list =>
      have hrecords := forEach_eq_done fun c hc => (hawait c hc).recordOf_eq
      have hlist : Adapter.list.run Store.answer s =
          (forEach s.controllers recordOf).run Store.answer s := rfl
      unfold Action.program at h
      rw [run_bind, hlist, hrecords] at h
      obtain rfl := Except.ok.inj h
      intro d hd
      obtain ⟨c, -, rfl⟩ := List.mem_map.1 hd
      rfl
  | get id =>
      unfold Action.program Adapter.get at h
      rw [run_bind, run_bind] at h
      by_cases hstored : s.HasController id
      · obtain ⟨c, hfound⟩ := Option.isSome_iff_exists.1 ((Store.isSome_controller?_iff s id).2 hstored)
        have hrecord := (hawait c (List.mem_of_find?_eq_some hfound)).recordOf_eq
        simp only [Store.run_getController_of_stored hfound, hrecord, run_done] at h
        obtain rfl := Except.ok.inj h
        simp [Answer.records]
      · rw [Store.run_getController_of_not_stored hstored] at h
        contradiction
  | create config batch =>
      unfold Action.program Adapter.create at h
      rw [run_bind] at h
      cases hresolve : Exposure.resolve config.externalIps batch with
      | error rejection =>
          unfold Lifecycle.create at h
          rw [hresolve] at h
          contradiction
      | ok services =>
          have houtcome := outcome_create hresolve s
          generalize (Lifecycle.create config batch).run Store.answer s = result at h houtcome
          cases houtcome with
          | created _ _ =>
              obtain rfl := Except.ok.inj h
              simp [Answer.records]
          | serviceTaken _ _ _ => contradiction
          | workloadTaken _ _ _ _ => contradiction
  | destroy r =>
      unfold Action.program at h
      rw [run_bind] at h
      split at h
      · obtain rfl := Except.ok.inj h
        simp [Answer.records]
      · contradiction
  | info config =>
      obtain rfl := Except.ok.inj h
      simp [Answer.records]

/-- Any sequence of operations on an empty store, whichever calls are made to fail. Names are there
and distinct. Every controller is the workload of a service with no pods observed; if it asks for no
pods, then a removal abandoned it. Every network service is for a sanitized name, with that name as its
only label, the pods of the adapter, and one port. If nothing fails on demand, every record that was
ever returned says that the deployment is pending. -/
theorem objects_of_perform {s : Store} (hcontrollers : s.controllers = [])
    (hservices : s.services = []) (actions : List Action) :
    let outcomes := (s.perform actions).1
    let left := (s.perform actions).2
    left.DistinctNames ∧
    (∀ c ∈ left.controllers,
      c.metadata.name ≠ none ∧ (c.Awaits ∨ c.Drained ∧ Abandoned s actions c)) ∧
    (∀ v ∈ left.services, ∃ name, v.Exposes name) ∧
    ((∀ op, s.errors op = none) → ∀ outcome ∈ outcomes, ∀ answer, outcome = .ok answer →
      ∀ d ∈ answer.records, d.state = "pending") := by
  intro outcomes left
  have hmanaged := (Managed.of_empty hcontrollers hservices).perform actions
  refine ⟨hmanaged.distinct, ?_, hmanaged.services, ?_⟩
  · intro c hc
    have hform := hmanaged.controllers c hc
    have hnamed := Controller.name_isSome_of_managed hform
    refine ⟨Option.isSome_iff_ne_none.1 hnamed, hform.imp_right fun hdrained => ?_⟩
    obtain ⟨b, rfl⟩ := hdrained
    exact ⟨⟨b, rfl⟩, abandoned_of_desired?_eq_zero hcontrollers hservices hc rfl⟩
  · intro hs outcome houtcome answer hanswer
    obtain ⟨before, a, after, -, rfl⟩ := Store.exists_of_mem_perform houtcome
    have herrors : ∀ op, (s.perform before).2.errors op = none := by
      rw [Store.errors_perform]
      exact hs
    exact records_pending herrors (awaits_of_perform hcontrollers hservices hs before) hanswer

/-- An empty store that refuses to delete controllers. -/
def stubborn : Store where
  errors op := if op = .deleteController then some (.other "refused") else none

/-- A website is created and then to be removed. -/
def relaunch : List Action := [.create {} website, .destroy (.prompt "web"), .list]

/-- A removal that is refused leaves a controller that asks for no pods, and it was abandoned; where
nothing is refused three operations return, and every record says pending. -/
theorem objects_of_perform_relaunch :
    (∃ c ∈ (stubborn.perform relaunch).2.controllers,
      c.desired? = some 0 ∧ Abandoned stubborn relaunch c) ∧
    ((Store.perform {} relaunch).1.length = 3 ∧
      ∀ outcome ∈ (Store.perform {} relaunch).1, ∀ answer, outcome = .ok answer →
        ∀ d ∈ answer.records, d.state = "pending") := by
  constructor
  · let c := (Workload.unobserved website[0]).scaledTo 0
    have hc : c ∈ (stubborn.perform relaunch).2.controllers := by
      have hleft : (stubborn.perform relaunch).2.controllers =
          [c, Workload.unobserved website[1]] := by rfl
      rw [hleft]
      exact List.mem_cons_self
    obtain ⟨-, hform, -, -⟩ := objects_of_perform (s := stubborn) rfl rfl relaunch
    rcases (hform c hc).2 with hawaits | ⟨-, habandoned⟩
    · exact absurd rfl hawaits.desired?_ne_zero
    · exact ⟨c, hc, rfl, habandoned⟩
  · obtain ⟨-, -, -, hpending⟩ := objects_of_perform (s := {}) rfl rfl relaunch
    exact ⟨by rfl, hpending fun _ => rfl⟩

end Adapter

end Stevedore
