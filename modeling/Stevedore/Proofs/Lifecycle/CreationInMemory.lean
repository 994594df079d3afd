import Stevedore.Proofs.Backend.Names
import Stevedore.Proofs.Exposure.Routing
import Stevedore.Proofs.Lifecycle.Creation
/-!
# Creating a batch in memory

In memory a batch is created unless the store has one of its names already. A batch does not stand
in its own way: the names of its network services differ from one another, and so do those of its
workloads. So what is free at the start is still free when its turn comes.

Main results:

- Theorem `Fills.run_cases`: a loop over items that each take a name ends at the first name that was
  taken before the loop began.
- Theorem `create_in_memory`: when a batch is created, and what the store holds afterwards.
-/

namespace Stevedore

open Backend Cluster Program

namespace Program

/-! ## Loops that take names -/

/-- Each item of a loop takes its name in the state, and fails without effect if the name is taken
already. -/
structure Fills (handler : Handler σ) (body : α → Program β) (name : α → κ)
    (taken : σ → α → Prop) (add : σ → List α → σ) (result : α → β) (failure : α → Failure) :
    Prop where
  run_of_free : ∀ s a, ¬ taken s a → (body a).run handler s = (.ok (result a), add s [a])
  run_of_taken : ∀ s a, taken s a → (body a).run handler s = (.error (failure a), s)
  /-- Nothing else becomes taken. -/
  taken_add : ∀ s a b, name a ≠ name b → (taken (add s [a]) b ↔ taken s b)
  add_nil : ∀ s, add s [] = s
  add_append : ∀ s items more, add (add s items) more = add s (items ++ more)

/-- With distinct names a loop runs through, or it ends at the first item whose name was taken
before the loop began. -/
theorem Fills.run_cases {handler : Handler σ} {body : α → Program β} {name : α → κ}
    {taken : σ → α → Prop} {add : σ → List α → σ} {result : α → β} {failure : α → Failure}
    (h : Fills handler body name taken add result failure) {items : List α}
    (hnames : (items.map name).Nodup) (s : σ) :
    ((∀ a ∈ items, ¬ taken s a) ∧
      (forEach items body).run handler s = (.ok (items.map result), add s items)) ∨
    ∃ before a after, items = before ++ a :: after ∧ (∀ b ∈ before, ¬ taken s b) ∧ taken s a ∧
      (forEach items body).run handler s = (.error (failure a), add s before) := by
  induction items generalizing s with
  | nil =>
      refine .inl ⟨by simp, ?_⟩
      rw [h.add_nil]
      rfl
  | cons a rest ih =>
      rw [List.map_cons, List.nodup_cons] at hnames
      rcases hnames with ⟨hnew, hrest⟩
      have hkept : ∀ b ∈ rest, taken (add s [a]) b ↔ taken s b := by
        intro b hb
        refine h.taken_add s a b ?_
        intro hsame
        exact hnew (hsame ▸ List.mem_map_of_mem hb)
      unfold forEach
      by_cases ha : taken s a
      · refine .inr ⟨[], a, rest, rfl, by simp, ha, ?_⟩
        rw [run_bind, h.run_of_taken s a ha, h.add_nil]
      · rw [run_bind, h.run_of_free s a ha]
        rcases ih hrest (add s [a]) with
          ⟨hfree, hrun⟩ | ⟨before, b, after, rfl, hfree, htaken, hrun⟩
        · refine .inl ⟨?_, ?_⟩
          · rw [List.forall_mem_cons]
            exact ⟨ha, fun b hb => (hkept b hb).not.1 (hfree b hb)⟩
          · simp [run_bind, hrun, h.add_append]
        · refine .inr ⟨a :: before, b, after, rfl, ?_, (hkept b (by simp)).1 htaken, ?_⟩
          · rw [List.forall_mem_cons]
            exact ⟨ha, fun c hc => (hkept c (by simp [hc])).not.1 (hfree c hc)⟩
          · simp [run_bind, hrun, h.add_append]

end Program

namespace Backend.Store

/-! ## Objects that are added -/

/-- The store with more objects: network services, and the workloads of services with no pods
observed. -/
def adding (s : Store) (services : List NetworkService) (batch : List Service) : Store :=
  { s with
    services := s.services ++ services
    controllers := s.controllers ++ batch.map Workload.unobserved }

/-- Network services take no name of a controller. -/
theorem hasController_adding_nil (s : Store) (services : List NetworkService) (name : String) :
    (s.adding services []).HasController name ↔ s.HasController name := by
  simp [adding, HasController]

/-- Objects that are added in two steps are added together. -/
theorem adding_adding (s : Store) (services more : List NetworkService)
    (batch others : List Service) :
    (s.adding services batch).adding more others = s.adding (services ++ more) (batch ++ others) := by
  simp [adding]

theorem adding_nil (s : Store) : s.adding [] [] = s := by
  simp [adding]

theorem run_createService (s : Store) (v : NetworkService) :
    (Program.createService v).run answer s =
      (ofReply (s.createService v).1).run answer (s.createService v).2 :=
  rfl

theorem run_createController (s : Store) (c : Controller) :
    (Program.createController c).run answer s =
      (ofReply (s.createController c).1).run answer (s.createController c).2 :=
  rfl

/-- A network service is stored unless its name is taken. -/
theorem fills_createService :
    Fills answer Program.createService NetworkService.nameOrEmpty
      (fun s v => s.HasService v.nameOrEmpty) (fun s vs => s.adding vs []) id
      fun v => .error (.conflict ("services \"" ++ v.nameOrEmpty ++ "\" already exists")) where
  run_of_free s v hfree := by
    rw [← isSome_service?_iff] at hfree
    have hcreate : s.createService v = (.ok v, s.adding [v] []) := by
      unfold adding
      rw [createService_of_free hfree, List.map_nil, List.append_nil]
    rw [run_createService, hcreate]
    rfl
  run_of_taken s v htaken := by
    rw [← isSome_service?_iff] at htaken
    rw [run_createService, createService_of_taken htaken]
    rfl
  taken_add s v w hne := by
    have hother : v.metadata.name ≠ some w.nameOrEmpty := by
      intro hname
      exact hne (by simp [NetworkService.nameOrEmpty, hname])
    simp [adding, HasService, or_and_right, exists_or, hother]
  add_nil := adding_nil
  add_append s vs more := adding_adding s vs more [] []

end Backend.Store

namespace Lifecycle

/-! ## Workloads in a store -/

/-- The name under which a workload is stored is the network name of its service. -/
theorem nameOrEmpty_controller (b : Service) :
    (Workload.controller b).nameOrEmpty = Name.sanitize b.name :=
  rfl

/-- At least one pod is asked for, whatever the count. -/
theorem replicas_pos (r : Replication) : 0 < Workload.replicas r := by
  unfold Workload.replicas
  by_cases hcount : r.count < 1
  · rw [if_pos hcount]
    decide
  · have hzero : (0 : Int32).toInt = 0 := by decide
    have hone : (1 : Int32).toInt = 1 := by decide
    rw [Int32.lt_iff_toInt_lt, hone] at hcount
    rw [if_neg (by rwa [Int32.lt_iff_toInt_lt, hone]), Int32.lt_iff_toInt_lt, hzero]
    omega

/-- A workload with no pods observed is pending, and its pods are not asked for. -/
theorem recordOf_unobserved (b : Service) :
    recordOf (Workload.unobserved b) = done ⟨Name.sanitize b.name, "pending"⟩ := by
  have hdesired : Status.desired (Workload.unobserved b) = Workload.replicas b.replication := rfl
  have hobserved : Status.observed (Workload.unobserved b) = 0 := rfl
  have hpos := replicas_pos b.replication
  have hne : (0 : Int32) ≠ Workload.replicas b.replication := by
    intro heq
    rw [← heq] at hpos
    exact absurd hpos (by decide)
  unfold recordOf Status.ofController
  rw [hdesired, hobserved, if_neg hne]
  simp [Status.compute, hpos, Status.text, Controller.nameOrEmpty]

/-- A workload whose name is free is stored with no pods of it observed. -/
theorem createController_of_free {s : Store} {b : Service}
    (h : ¬ (s.controller? (Workload.controller b).nameOrEmpty).isSome) :
    s.createController (Workload.controller b) = (.ok (Workload.unobserved b), s.adding [] [b]) := by
  unfold Store.adding
  rw [Store.createController_of_free h, List.append_nil]
  rfl

/-- The workload of a service is stored unless its name is taken. -/
theorem fills_deploy :
    Fills Store.answer deploy (fun b => Name.sanitize b.name)
      (fun s b => s.HasController (Name.sanitize b.name)) (fun s bs => s.adding [] bs)
      (fun b => ⟨Name.sanitize b.name, "pending"⟩)
      fun b => .error (.conflict
        ("replicationcontrollers \"" ++ Name.sanitize b.name ++ "\" already exists")) where
  run_of_free s b hfree := by
    rw [← Store.isSome_controller?_iff, ← nameOrEmpty_controller] at hfree
    unfold deploy
    rw [run_bind, Store.run_createController, createController_of_free hfree]
    simp [ofReply, recordOf_unobserved]
  run_of_taken s b htaken := by
    rw [← Store.isSome_controller?_iff, ← nameOrEmpty_controller] at htaken
    unfold deploy
    rw [run_bind, Store.run_createController, Store.createController_of_taken htaken]
    rfl
  taken_add s a b hne := by
    simp [Store.adding, Store.HasController, or_and_right, exists_or, hne]
  add_nil := Store.adding_nil
  add_append s bs more := Store.adding_adding s [] [] bs more

/-- Creating a workload lists no pods. -/
theorem listPods_not_called_of_deploy (b : Service) (s : Store) :
    ∀ x ∈ (deploy b).transcript Store.answer s, ∀ selector, x.call ≠ .listPods selector := by
  unfold deploy
  change ∀ x ∈ _ :: ((ofReply (s.createController (Workload.controller b)).1 >>= recordOf).transcript
    Store.answer _), _
  rw [List.forall_mem_cons]
  refine ⟨by simp, ?_⟩
  unfold Store.createController
  split
  · simp [ofReply]
  · simp [ofReply, recordOf_unobserved]

/-! ## Whole batches -/

/-- How creating a batch fares in memory: the result and what is stored afterwards. -/
inductive Outcome (s : Store) (services : List NetworkService) (batch : List Service) :
    Except Failure (List DeploymentRecord) × Store → Prop
  /-- All names are free. -/
  | created (hservices : ∀ v ∈ services, ¬ s.HasService v.nameOrEmpty)
      (hworkloads : ∀ b ∈ batch, ¬ s.HasController (Name.sanitize b.name)) :
      Outcome s services batch
        (.ok (batch.map fun b => ⟨Name.sanitize b.name, "pending"⟩), s.adding services batch)
  /-- The name of a network service is taken, those before it are free. -/
  | serviceTaken {before after : List NetworkService} {v : NetworkService}
      (hsplit : services = before ++ v :: after)
      (hfree : ∀ u ∈ before, ¬ s.HasService u.nameOrEmpty) (htaken : s.HasService v.nameOrEmpty) :
      Outcome s services batch
        (.error (.error (.conflict ("services \"" ++ v.nameOrEmpty ++ "\" already exists"))),
          s.adding before [])
  /-- The name of a workload is taken, those before it and of all network services are free. -/
  | workloadTaken {before after : List Service} {b : Service}
      (hservices : ∀ v ∈ services, ¬ s.HasService v.nameOrEmpty)
      (hsplit : batch = before ++ b :: after)
      (hfree : ∀ a ∈ before, ¬ s.HasController (Name.sanitize a.name))
      (htaken : s.HasController (Name.sanitize b.name)) :
      Outcome s services batch
        (.error (.error (.conflict
            ("replicationcontrollers \"" ++ Name.sanitize b.name ++ "\" already exists"))),
          s.adding services before)

section Accepted

variable {config : Config} {batch : List Service} {services : List NetworkService}

/-- How a creation fares depends on the first name that is taken, of the network services first and
then of the workloads. -/
theorem outcome_create (h : Exposure.resolve config.externalIps batch = .ok services) (s : Store) :
    Outcome s services batch ((create config batch).run Store.answer s) := by
  rw [create_of_resolve h, run_bind]
  rcases Store.fills_createService.run_cases (Exposure.nodup_nameOrEmpty_of_resolve h) s with
    ⟨hservices, hrun⟩ | ⟨before, v, after, hsplit, hfree, htaken, hrun⟩
  · rw [hrun]
    rcases fills_deploy.run_cases (Exposure.unambiguous_of_resolve h).names_nodup
      (s.adding services []) with ⟨hfree, hrun⟩ | ⟨before, b, after, hsplit, hfree, htaken, hrun⟩
    · simp only [Store.hasController_adding_nil] at hfree
      simp only [hrun, Store.adding_adding, List.append_nil, List.nil_append]
      exact .created hservices hfree
    · simp only [Store.hasController_adding_nil] at hfree htaken
      simp only [hrun, Store.adding_adding, List.append_nil, List.nil_append]
      exact .workloadTaken hservices hsplit hfree htaken
  · rw [hrun]
    exact .serviceTaken hsplit hfree htaken

/-- Creating a batch lists no pods. -/
theorem listPods_not_called_of_create
    (h : Exposure.resolve config.externalIps batch = .ok services) (s : Store) :
    ∀ x ∈ (create config batch).transcript Store.answer s, ∀ selector,
      x.call ≠ .listPods selector := by
  rw [create_of_resolve h]
  refine forall_transcript_bind ?_ fun _ s => ?_
  · refine forall_transcript_forEach services (fun v _ s => ?_) s
    change ∀ x ∈ _ :: (ofReply (s.createService v).1).transcript Store.answer _, _
    rw [List.forall_mem_cons]
    refine ⟨by simp, ?_⟩
    cases (s.createService v).1 <;> simp [ofReply]
  · exact forall_transcript_forEach batch (fun b _ => listPods_not_called_of_deploy b) s

end Accepted

/-- A batch that the resolver accepts is created in memory exactly if no stored object has one of its
names. Then every record says that the deployment is pending; otherwise the first name that is taken
is reported, and what comes before it stays. No pods are listed. -/
theorem create_in_memory {config : Config} {batch : List Service} {services : List NetworkService}
    (h : Exposure.resolve config.externalIps batch = .ok services) {s : Store}
    (hs : ∀ op, s.errors op = none) :
    ((∃ records, ((create config batch).run Store.handle s).1 = .ok records) ↔
      (∀ v ∈ services, ¬ s.HasService v.nameOrEmpty) ∧
        ∀ b ∈ batch, ¬ s.HasController (Name.sanitize b.name)) ∧
    Outcome s services batch ((create config batch).run Store.handle s) ∧
    ∀ x ∈ (create config batch).transcript Store.handle s, ∀ selector,
      x.call ≠ .listPods selector := by
  rcases Store.run_handle hs (create config batch) with ⟨hrun, htranscript⟩
  rw [hrun, htranscript]
  have houtcome := outcome_create h s
  refine ⟨?_, houtcome, listPods_not_called_of_create h s⟩
  generalize (create config batch).run Store.answer s = result at houtcome
  cases houtcome with
  | created hservices hworkloads =>
      exact ⟨fun _ => ⟨hservices, hworkloads⟩, fun _ => ⟨_, rfl⟩⟩
  | serviceTaken hsplit hfree htaken =>
      constructor
      · rintro ⟨records, hrecords⟩
        contradiction
      · rintro ⟨hservices, -⟩
        exact absurd htaken (hservices _ (by simp [hsplit]))
  | workloadTaken hservices hsplit hfree htaken =>
      constructor
      · rintro ⟨records, hrecords⟩
        contradiction
      · rintro ⟨-, hworkloads⟩
        exact absurd htaken (hworkloads _ (by simp [hsplit]))

/-- A store with two workloads. -/
def busy : Store where
  controllers := [{ metadata := { name := some "mail" } }, { metadata := { name := some "worker" } }]

/-- A database is created; the name of the service after it is taken. -/
theorem create_in_memory_busy :
    let config : Config := {}
    let batch : List Service := [
      { name := "DB", ports := [⟨0, 3306, ""⟩], replication := ⟨-2⟩ },
      { name := "Worker", links := [⟨"DB", "store"⟩] }]
    let services : List NetworkService := [
      Exposure.networkService [] "db" ⟨0, 3306, ""⟩,
      Exposure.networkService [] "store" ⟨0, 3306, ""⟩]
    Exposure.resolve config.externalIps batch = .ok services ∧
      (∀ op, busy.errors op = none) ∧
      ¬ (∃ records, ((create config batch).run Store.handle busy).1 = .ok records) ∧
      Outcome busy services batch
        (.error (.error (.conflict "replicationcontrollers \"worker\" already exists")),
          busy.adding services batch.dropLast) := by
  intro config batch services
  have h : Exposure.resolve config.externalIps batch = .ok services := by rfl
  have hs : ∀ op, busy.errors op = none := fun _ => rfl
  rcases create_in_memory h hs with ⟨hiff, houtcome, -⟩
  refine ⟨h, hs, ?_, ?_⟩
  · rw [hiff]
    rintro ⟨-, hworkloads⟩
    have htaken : busy.HasController (Name.sanitize "Worker") :=
      ⟨{ metadata := { name := some "worker" } }, by simp [busy], by rfl⟩
    exact hworkloads batch[1] (by simp [batch]) htaken
  · have hrun : (create config batch).run Store.handle busy =
        (.error (.error (.conflict "replicationcontrollers \"worker\" already exists")),
          busy.adding services batch.dropLast) := by rfl
    rwa [hrun] at houtcome

end Lifecycle

end Stevedore
