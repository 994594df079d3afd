import Stevedore.Proofs.Lifecycle.RemovalOfCreated
/-!
# Cleaning up after a failed creation

When the creation of a batch fails, what was stored before the failure stays: some of the network
services, and if these were all stored, some of the workloads. Removing every deployment of the batch
takes the workloads away. A network service goes only if a workload of its own name is there to be
found: those that the failed creation stored before the first workload all stay.

Main results:

- Theorem `Adds.run_cases`: a loop over items that each add themselves or fail without effect leaves
  an initial part of them.
- Theorem `adding_of_create`: what the creation of a batch leaves on any store, whatever fails.
- Theorem `left_of_cleanup`: what the removal of the whole batch leaves of any store.
- Theorem `recovery_of_create`: what it leaves of the objects of a creation that failed.
-/

namespace Stevedore

open Backend Cluster Program

namespace Program

/-! ## Loops that add items -/

/-- Each item of a loop adds itself to the state, or it fails without effect. -/
structure Adds (handler : Handler σ) (body : α → Program β) (add : σ → List α → σ) : Prop where
  run_item : ∀ s a, (∃ b, (body a).run handler s = (.ok b, add s [a])) ∨
    ∃ e, (body a).run handler s = (.error e, s)
  add_nil : ∀ s, add s [] = s
  add_append : ∀ s items more, add (add s items) more = add s (items ++ more)

/-- A loop adds all items, or those before the first one that fails. -/
theorem Adds.run_cases {handler : Handler σ} {body : α → Program β} {add : σ → List α → σ}
    (h : Adds handler body add) (items : List α) (s : σ) :
    (∃ bs, (forEach items body).run handler s = (.ok bs, add s items)) ∨
      ∃ before a after e, items = before ++ a :: after ∧
        (forEach items body).run handler s = (.error e, add s before) := by
  induction items generalizing s with
  | nil =>
      refine .inl ⟨[], ?_⟩
      rw [h.add_nil]
      rfl
  | cons a rest ih =>
      unfold forEach
      rcases h.run_item s a with ⟨b, hb⟩ | ⟨e, he⟩
      · rcases ih (add s [a]) with ⟨bs, hbs⟩ | ⟨before, c, after, e, rfl, he⟩
        · refine .inl ⟨b :: bs, ?_⟩
          simp [run_bind, hb, hbs, h.add_append]
        · refine .inr ⟨a :: before, c, after, e, rfl, ?_⟩
          simp [run_bind, hb, he, h.add_append]
      · refine .inr ⟨[], a, rest, e, rfl, ?_⟩
        rw [run_bind, he, h.add_nil]

end Program

namespace Backend.Store

/-- A call whose failure is asked for has no effect; otherwise it is answered as without. -/
theorem run_call_handle (c : Call) (next : c.Reply → Program α)
    (hfailed : ∀ e, ∃ failure, next (c.failed e) = fail failure) (s : Store) :
    (∃ e, (call c next).run handle s = (.error e, s)) ∨
      (call c next).run handle s = (next (answer c s).1).run handle (answer c s).2 := by
  rw [run_call]
  rcases handle_cases s c with ⟨e, hfail⟩ | hanswer
  · obtain ⟨failure, hnext⟩ := hfailed e
    exact .inl ⟨failure, by rw [hfail, hnext, run_fail]⟩
  · exact .inr (by rw [hanswer])

/-- A network service is stored, or the call fails without effect. -/
theorem adds_createService :
    Adds handle Program.createService fun s vs => s.adding vs [] where
  run_item s v := by
    rcases run_call_handle (.createService v) ofReply (fun e => ⟨_, rfl⟩) s with
      ⟨e, hfail⟩ | hanswer
    · exact .inr ⟨e, hfail⟩
    · change (Program.createService v).run handle s =
        (ofReply (s.createService v).1).run handle (s.createService v).2 at hanswer
      rw [hanswer]
      by_cases htaken : (s.service? v.nameOrEmpty).isSome
      · rw [createService_of_taken htaken]
        exact .inr ⟨_, rfl⟩
      · rw [createService_of_free htaken]
        exact .inl ⟨v, by simp [ofReply, adding]⟩
  add_nil := adding_nil
  add_append s vs more := adding_adding s vs more [] []

end Backend.Store

namespace Lifecycle

/-- A workload is stored, or the call fails without effect. -/
theorem adds_deploy : Adds Store.handle deploy fun s bs => s.adding [] bs where
  run_item s b := by
    rcases Store.run_call_handle (.createController (Workload.controller b))
      (fun reply => ofReply reply >>= recordOf) (fun e => ⟨_, rfl⟩) s with ⟨e, hfail⟩ | hanswer
    · exact .inr ⟨e, hfail⟩
    · have hrun : (deploy b).run Store.handle s =
          (ofReply (s.createController (Workload.controller b)).1 >>= recordOf).run Store.handle
            (s.createController (Workload.controller b)).2 := hanswer
      rw [hrun]
      by_cases htaken : (s.controller? (Workload.controller b).nameOrEmpty).isSome
      · rw [Store.createController_of_taken htaken]
        exact .inr ⟨_, rfl⟩
      · rw [createController_of_free htaken]
        exact .inl ⟨⟨Name.sanitize b.name, "pending"⟩, by simp [ofReply, recordOf_unobserved]⟩
  add_nil := Store.adding_nil
  add_append s bs more := Store.adding_adding s [] [] bs more

/-- What the creation of a batch may have stored when it ends: network services of the batch, from
the first one on, and once they are all stored, workloads of the batch, from the first one on. -/
structure Begun (config : Config) (batch : List Service) (added : List NetworkService)
    (created : List Service) : Prop where
  of_rejected : ∀ r, Exposure.resolve config.externalIps batch = .error r →
    added = [] ∧ created = []
  added_prefix : ∀ services, Exposure.resolve config.externalIps batch = .ok services →
    added <+: services
  services_first : ∀ services, Exposure.resolve config.externalIps batch = .ok services →
    created ≠ [] → added = services
  created_prefix : created <+: batch

/-- First parts of the network services and of the batch are what a creation may have stored, if no
workload comes before the last network service. -/
theorem begun_of_prefix {config : Config} {batch : List Service} {services : List NetworkService}
    (h : Exposure.resolve config.externalIps batch = .ok services) {added : List NetworkService}
    {created : List Service} (hadded : added <+: services)
    (hfirst : created ≠ [] → added = services) (hcreated : created <+: batch) :
    Begun config batch added created where
  of_rejected r hr := by
    rw [h] at hr
    contradiction
  added_prefix others hothers := by
    rw [h, Except.ok.injEq] at hothers
    exact hothers ▸ hadded
  services_first others hothers := by
    rw [h, Except.ok.injEq] at hothers
    exact hothers ▸ hfirst
  created_prefix := hcreated

/-- Whatever fails, the creation of a batch leaves an initial part of it. -/
theorem adding_of_create (config : Config) (batch : List Service) (s : Store) :
    ∃ added created, Begun config batch added created ∧
      ((create config batch).run Store.handle s).2 = s.adding added created := by
  cases hresolve : Exposure.resolve config.externalIps batch with
  | error r =>
      refine ⟨[], [], ⟨fun _ _ => ⟨rfl, rfl⟩, ?_, ?_, List.nil_prefix⟩, ?_⟩
      · exact fun services _ => List.nil_prefix
      · exact fun services _ hne => absurd rfl hne
      · unfold create
        rw [hresolve, run_fail, Store.adding_nil]
  | ok services =>
      rw [create_of_resolve hresolve, run_bind]
      rcases Store.adds_createService.run_cases services s with
        ⟨stored, hservices⟩ | ⟨before, v, after, e, hsplit, hservices⟩
      · rw [hservices]
        rcases adds_deploy.run_cases batch (s.adding services []) with
          ⟨records, hworkloads⟩ | ⟨before, b, after, e, hsplit, hworkloads⟩
        · refine ⟨services, batch, ?_, by simp [hworkloads, Store.adding_adding]⟩
          exact begun_of_prefix hresolve List.prefix_rfl (fun _ => rfl) List.prefix_rfl
        · refine ⟨services, before, ?_, by simp [hworkloads, Store.adding_adding]⟩
          exact begun_of_prefix hresolve List.prefix_rfl (fun _ => rfl) ⟨b :: after, hsplit.symm⟩
      · rw [hservices]
        refine ⟨before, [], ?_, rfl⟩
        exact begun_of_prefix hresolve ⟨v :: after, hsplit.symm⟩ (fun hne => absurd rfl hne)
          List.nil_prefix

/-- The network services among them are those of the resolver. -/
theorem Begun.exists_resolve {config : Config} {batch : List Service}
    {added : List NetworkService} {created : List Service} (h : Begun config batch added created)
    {v : NetworkService} (hv : v ∈ added) :
    ∃ services, Exposure.resolve config.externalIps batch = .ok services ∧ v ∈ services := by
  cases hresolve : Exposure.resolve config.externalIps batch with
  | error r =>
      obtain ⟨rfl, -⟩ := h.of_rejected r hresolve
      contradiction
  | ok services => exact ⟨services, rfl, (h.added_prefix services hresolve).subset hv⟩

/-- What was stored of a batch are network services as the resolver makes them. -/
theorem Begun.exists_networkService {config : Config} {batch : List Service}
    {added : List NetworkService} {created : List Service} (h : Begun config batch added created)
    {v : NetworkService} (hv : v ∈ added) :
    ∃ name p, v = Exposure.networkService config.externalIps name p := by
  obtain ⟨services, hresolve, hmem⟩ := h.exists_resolve hv
  exact Exposure.exists_networkService_of_mem hresolve hmem

/-- What the removal of all deployments of a batch leaves in a store, once its causes of failure are
gone. -/
theorem left_of_cleanup {t : Store} (ht : t.DistinctNames) (batch : List Service)
    {removals : List Removal}
    (hids : ∀ id, id ∈ removals.map (·.id) ↔ ∃ b ∈ batch, Name.sanitize b.name = id) :
    let left := (runEach Store.handle (removals.map (·.program))
      { t with errors := fun _ => none }).2
    (∀ name, left.HasController name ↔
      t.HasController name ∧ ¬ ∃ b ∈ batch, Name.sanitize b.name = name) ∧
    ∀ v, v ∈ left.services ↔ v ∈ t.services ∧
      ∀ b ∈ batch, t.HasController (Name.sanitize b.name) →
        ¬ v.GoesWith (Name.sanitize b.name) := by
  intro left
  let cleared : Store := { t with errors := fun _ => none }
  have hcleared : cleared.DistinctNames := ⟨ht.controllers_nodup, ht.services_nodup⟩
  have hleft : Store.SameButPods (cleared.without (removals.map (·.id))) left :=
    runEach_handle_removals (fun _ => rfl) hcleared removals
  constructor
  · intro name
    rw [hleft.hasController_iff, Store.hasController_without_iff, hids]
    rfl
  · intro v
    rw [hleft.services_eq, Store.mem_services_without_iff]
    simp only [hids, forall_exists_index, and_imp, forall_apply_eq_imp_iff₂]
    rfl

/-- Removing all deployments of a batch after its creation failed, with the causes of the failure
gone. Of what the creation had stored all workloads are removed, but a network service only if it has
the name of a service of the batch whose workload is stored. So if no workload was stored, by this
creation or before, all network services stay. -/
theorem recovery_of_create {s : Store} (hs : s.DistinctNames) (config : Config)
    (batch : List Service) {removals : List Removal}
    (hids : ∀ id, id ∈ removals.map (·.id) ↔ ∃ b ∈ batch, Name.sanitize b.name = id) :
    let failed := ((create config batch).run Store.handle s).2
    let left := (runEach Store.handle (removals.map (·.program))
      { failed with errors := fun _ => none }).2
    ∃ added created, Begun config batch added created ∧ failed = s.adding added created ∧
      (∀ b ∈ created, ¬ left.HasController (Name.sanitize b.name)) ∧
      (∀ v ∈ added, v ∈ left.services ↔
        ¬ ((∃ b ∈ batch, Name.sanitize b.name = v.nameOrEmpty) ∧
          failed.HasController v.nameOrEmpty)) ∧
      (created = [] → (∀ b ∈ batch, ¬ s.HasController (Name.sanitize b.name)) →
        ∀ v ∈ failed.services, v ∈ left.services) := by
  intro failed left
  obtain ⟨added, created, hbegun, hfailed⟩ := adding_of_create config batch s
  have hdistinct : failed.DistinctNames := Store.distinctNames_run _ hs
  have hleft := left_of_cleanup hdistinct batch hids
  have hcontrollers : ∀ name, left.HasController name ↔
      failed.HasController name ∧ ¬ ∃ b ∈ batch, Name.sanitize b.name = name := hleft.1
  have hservices : ∀ v, v ∈ left.services ↔ v ∈ failed.services ∧
      ∀ b ∈ batch, failed.HasController (Name.sanitize b.name) →
        ¬ v.GoesWith (Name.sanitize b.name) := hleft.2
  refine ⟨added, created, hbegun, hfailed, ?_, ?_, ?_⟩
  · intro b hb hstored
    have hother := ((hcontrollers _).1 hstored).2
    exact hother ⟨b, hbegun.created_prefix.subset hb, rfl⟩
  · intro v hv
    obtain ⟨name, p, rfl⟩ := hbegun.exists_networkService hv
    have hstored : Exposure.networkService config.externalIps name p ∈ failed.services := by
      change _ ∈ ((create config batch).run Store.handle s).2.services
      rw [hfailed]
      exact List.mem_append_right _ hv
    rw [hservices]
    simp only [Exposure.goesWith_networkService_iff]
    change _ ↔ ¬ ((∃ b ∈ batch, Name.sanitize b.name = name) ∧ failed.HasController name)
    constructor
    · rintro ⟨-, hstays⟩ ⟨⟨b, hb, rfl⟩, hworkload⟩
      exact hstays b hb hworkload rfl
    · intro hnone
      refine ⟨hstored, ?_⟩
      rintro b hb hworkload rfl
      exact hnone ⟨⟨b, hb, rfl⟩, hworkload⟩
  · rintro rfl hbefore v hv
    rw [hservices]
    refine ⟨hv, ?_⟩
    intro b hb hworkload
    have hfree := hbefore b hb
    change (Store.HasController ((create config batch).run Store.handle s).2 _) at hworkload
    rw [hfailed] at hworkload
    exact absurd ((Store.hasController_adding_nil s added _).1 hworkload) hfree

/-- A website and its database. -/
def website : List Service := [
  { name := "web", source := "nginx", ports := [⟨80, 80, "TCP"⟩] },
  { name := "db", source := "mysql", ports := [⟨0, 3306, "TCP"⟩] }]

/-- A store in which the network name of the database is taken. -/
def halfTaken : Store where
  services := [{ metadata := { name := some "db" } }]

/-- The removal of both deployments. -/
def cleanup : List Removal := [.prompt "web", .prompt "db"]

theorem distinctNames_halfTaken : halfTaken.DistinctNames where
  controllers_nodup := by decide
  services_nodup := by decide

theorem mem_cleanup_iff (id : String) :
    id ∈ cleanup.map (·.id) ↔ ∃ b ∈ website, Name.sanitize b.name = id := by
  have hweb : Name.sanitize "web" = "web" := by rfl
  have hdb : Name.sanitize "db" = "db" := by rfl
  simp [cleanup, website, Removal.prompt, Removal.id, hweb, hdb, eq_comm]

/-- The network service of the website stays after both removals, because no controller was
stored. -/
theorem recovery_of_create_website :
    let failed := ((create {} website).run Store.handle halfTaken).2
    let left := (runEach Store.handle (cleanup.map (·.program))
      { failed with errors := fun _ => none }).2
    halfTaken.DistinctNames ∧
      (∀ id, id ∈ cleanup.map (·.id) ↔ ∃ b ∈ website, Name.sanitize b.name = id) ∧
      failed.controllers = [] ∧
      Exposure.networkService [] "web" ⟨80, 80, "TCP"⟩ ∈ left.services := by
  intro failed left
  obtain ⟨added, created, -, hfailed, -, -, hstay⟩ :=
    recovery_of_create distinctNames_halfTaken {} website mem_cleanup_iff
  have hcontrollers : ((create {} website).run Store.handle halfTaken).2.controllers = [] := by
    rfl
  have hservices : ((create {} website).run Store.handle halfTaken).2.services =
      halfTaken.services ++ [Exposure.networkService [] "web" ⟨80, 80, "TCP"⟩] := by rfl
  have hcreated : created = [] := by
    rw [hfailed] at hcontrollers
    simpa [Store.adding, halfTaken] using hcontrollers
  refine ⟨distinctNames_halfTaken, mem_cleanup_iff, hcontrollers, hstay hcreated ?_ _ ?_⟩
  · rintro b - ⟨c, hc, -⟩
    simp [halfTaken] at hc
  · rw [hservices]
    simp

/-- It does not hold that the removal of a batch takes away what a failed creation had added: the
network service of the website stays, since its workload was never stored. -/
theorem orphan_survives_recovery :
    ¬ ∀ (config : Config) (batch : List Service) (s t : Store) (failure : Failure)
      (removals : List Removal),
      s.DistinctNames → (create config batch).run Store.handle s = (.error failure, t) →
      (∀ id, id ∈ removals.map (·.id) ↔ ∃ b ∈ batch, Name.sanitize b.name = id) →
      ∀ v ∈ t.services, v ∉ s.services →
        v ∉ (runEach Store.handle (removals.map (·.program))
          { t with errors := fun _ => none }).2.services := by
  intro h
  have hfailed : (create {} website).run Store.handle halfTaken =
      (.error (.error (.conflict (Store.serviceExists "db").message)),
        ((create {} website).run Store.handle halfTaken).2) := by rfl
  have hservices : ((create {} website).run Store.handle halfTaken).2.services =
      halfTaken.services ++ [Exposure.networkService [] "web" ⟨80, 80, "TCP"⟩] := by rfl
  have hleft : (runEach Store.handle (cleanup.map (·.program))
      { ((create {} website).run Store.handle halfTaken).2 with
        errors := fun _ => none }).2.services =
      halfTaken.services ++ [Exposure.networkService [] "web" ⟨80, 80, "TCP"⟩] := by rfl
  refine h {} website halfTaken _ _ cleanup distinctNames_halfTaken hfailed mem_cleanup_iff
    (Exposure.networkService [] "web" ⟨80, 80, "TCP"⟩) ?_ ?_ ?_
  · rw [hservices]
    simp
  · decide
  · rw [hleft]
    simp

end Lifecycle

end Stevedore
