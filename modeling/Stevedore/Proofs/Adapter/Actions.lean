import Stevedore.Adapter
import Stevedore.Proofs.Lifecycle.Recovery
import Stevedore.Proofs.Lifecycle.Retry
/-!
# Sequences of operations

The operations of the adapter with all their arguments, performed one after the other whatever the
outcome of each. What an operation may do to the objects of a store is said once, for every operation
and every failure.

Main definitions:

- `Action`: the operations, with `Action.program` and `Answer` the type of their results.
- `Effect`: what an operation may do to the objects of a store.
- `Store.perform`: operations one after the other.

Main results:

- Theorem `effect_run`: an operation has no other effects.
- Theorem `perform_concat`: the last operation of a sequence works on what the others left.
-/

namespace Stevedore

open Backend Cluster Program Lifecycle

namespace Adapter

/-- An operation with its arguments. -/
inductive Action where
  | list
  | get (id : String)
  | create (config : Config) (batch : List Service)
  | destroy (removal : Removal)
  | info (config : Config)

/-- The result of an operation. -/
inductive Answer where
  | listed (records : List DeploymentRecord)
  | found (record : DeploymentRecord)
  | created (records : List DeploymentRecord)
  | destroyed
  | informed (info : AdapterInfo)

/-- The records in a result. -/
def Answer.records : Answer → List DeploymentRecord
  | listed records => records
  | found record => [record]
  | created records => records
  | destroyed => []
  | informed _ => []

/-- What is done for an operation. -/
def Action.program : Action → Program Answer
  | list => Adapter.list >>= fun records => done (.listed records)
  | get id => Adapter.get id >>= fun record => done (.found record)
  | create config batch => Adapter.create config batch >>= fun records => done (.created records)
  | destroy r => Adapter.destroy r.config r.clock r.id >>= fun _ => done .destroyed
  | info config => Adapter.info config >>= fun info => done (.informed info)

/-! ## Operations that only look -/

/-- For the record of a controller at most its pods are listed. -/
theorem calls_of_recordOf (handler : Handler σ) (c : Controller) (s : σ) :
    ∀ x ∈ (recordOf c).transcript handler s, ∃ selector, x.call = .listPods selector := by
  unfold recordOf Status.ofController
  split
  · refine forall_transcript_bind ?_ fun status s => by simp
    refine forall_transcript_bind ?_ fun pods s => by simp
    rw [(asks_listPods _).transcript_eq, List.forall_mem_singleton]
    exact ⟨_, rfl⟩
  · simp

/-- A listing asks for the controllers and for pods, and for nothing else. -/
theorem calls_of_list (handler : Handler σ) (s : σ) :
    ∀ x ∈ Adapter.list.transcript handler s,
      x.call = .listControllers ∨ ∃ selector, x.call = .listPods selector := by
  unfold Adapter.list
  refine forall_transcript_bind ?_ fun controllers s => ?_
  · rw [asks_listControllers.transcript_eq, List.forall_mem_singleton]
    exact .inl rfl
  · exact forall_transcript_forEach controllers
      (fun c _ s x hx => .inr (calls_of_recordOf handler c s x hx)) s

/-- Showing one deployment asks for its controller and for pods, and for nothing else. -/
theorem calls_of_get (handler : Handler σ) (id : String) (s : σ) :
    ∀ x ∈ (Adapter.get id).transcript handler s,
      x.call = .getController id ∨ ∃ selector, x.call = .listPods selector := by
  unfold Adapter.get
  refine forall_transcript_bind ?_ fun c s x hx => .inr (calls_of_recordOf handler c s x hx)
  rw [(asks_getController id).transcript_eq, List.forall_mem_singleton]
  exact .inl rfl

theorem looks_of_list (handler : Handler σ) (s : σ) :
    ∀ x ∈ Adapter.list.transcript handler s, x.call.looks := by
  intro x hx
  rcases calls_of_list handler s x hx with hcall | ⟨selector, hcall⟩ <;> rw [hcall] <;> rfl

theorem looks_of_get (handler : Handler σ) (id : String) (s : σ) :
    ∀ x ∈ (Adapter.get id).transcript handler s, x.call.looks := by
  intro x hx
  rcases calls_of_get handler id s x hx with hcall | ⟨selector, hcall⟩ <;> rw [hcall] <;> rfl

theorem looks_of_info (handler : Handler σ) (config : Config) (s : σ) :
    ∀ x ∈ (Adapter.info config).transcript handler s, x.call.looks := by
  intro x hx
  change x ∈ [(⟨.health, (handler .health s).1⟩ : Exchange)] at hx
  rw [List.mem_singleton.1 hx]
  rfl

/-- A program that only looks changes nothing but the pods. -/
theorem sameButPods_run_of_looks {p : Program α} {s : Store}
    (h : ∀ x ∈ p.transcript Store.handle s, x.call.looks) :
    Store.SameButPods s (p.run Store.handle s).2 := by
  rw [run_snd]
  exact fallible_handle.sameButPods_replay h s

/-! ## The effect of an operation -/

/-- What an operation may do to the objects of a store. -/
inductive Effect (s : Store) : Action → Store → Prop
  /-- Nothing, but that pods may disappear. -/
  | looked {a : Action} {t : Store} (h : Store.SameButPods s t) : Effect s a t
  /-- A creation stores a first part of its objects. -/
  | created {config : Config} {batch created : List Service} {added : List NetworkService}
      (h : Begun config batch added created) :
      Effect s (.create config batch) (s.adding added created)
  /-- A removal takes all objects of the deployment away. -/
  | destroyed {r : Removal} {t : Store} (h : Store.SameButPods (s.without [r.id]) t) :
      Effect s (.destroy r) t
  /-- A removal fails part of the way. -/
  | interrupted {r : Removal} {t : Store} {e : Error}
      (hfailed : (r.program.run Store.handle s).1 = .error (.error e))
      (h : PartlyRemoved r.id s (r.program.transcript Store.handle s) t) :
      Effect s (.destroy r) t

/-- What is made of a result is no matter of the calls. -/
theorem run_bind_done_fst (handler : Handler σ) (p : Program α) (f : α → β) (s : σ) :
    ((p >>= fun a => done (f a)).run handler s).1 = (p.run handler s).1.map f := by
  rw [run_bind]
  rcases p.run handler s with ⟨_ | _, left⟩ <;> rfl

/-- What is made of the result changes nothing. -/
theorem run_bind_done_snd (handler : Handler σ) (p : Program α) (f : α → β) (s : σ) :
    ((p >>= fun a => done (f a)).run handler s).2 = (p.run handler s).2 := by
  rw [run_snd, transcript_bind_done, ← run_snd]

/-- Whatever fails, an operation has one of these effects. -/
theorem effect_run {s : Store} (hs : s.DistinctNames) (a : Action) :
    Effect s a (a.program.run Store.handle s).2 := by
  cases a with
  | list =>
      unfold Action.program
      rw [run_bind_done_snd]
      exact .looked (sameButPods_run_of_looks (looks_of_list Store.handle s))
  | get id =>
      unfold Action.program
      rw [run_bind_done_snd]
      exact .looked (sameButPods_run_of_looks (looks_of_get Store.handle id s))
  | create config batch =>
      unfold Action.program
      rw [run_bind_done_snd]
      obtain ⟨added, created, hbegun, hleft⟩ := adding_of_create config batch s
      have hcreated : ((Adapter.create config batch).run Store.handle s).2 =
          s.adding added created := hleft
      rw [hcreated]
      exact .created hbegun
  | destroy r =>
      unfold Action.program
      rw [run_bind_done_snd]
      rcases r.run_cases fallible_handle hs with ⟨-, -, hleft⟩ | ⟨e, hfailed, hpart⟩
      · exact .destroyed hleft
      · exact .interrupted hfailed hpart
  | info config =>
      unfold Action.program
      rw [run_bind_done_snd]
      exact .looked (sameButPods_run_of_looks (looks_of_info Store.handle config s))

end Adapter

/-! ## Sequences -/

/-- One more program runs on what the programs before it leave. -/
theorem Program.runEach_concat (handler : Handler σ) (programs : List (Program α)) (p : Program α)
    (s : σ) :
    runEach handler (programs ++ [p]) s =
      let before := runEach handler programs s
      (before.1 ++ [(p.run handler before.2).1], (p.run handler before.2).2) := by
  induction programs generalizing s with
  | nil => rfl
  | cons first rest ih => simp [runEach, ih]

/-- Performs operations one after the other. -/
def Backend.Store.perform (s : Store) (actions : List Adapter.Action) :
    List (Except Failure Adapter.Answer) × Store :=
  runEach handle (actions.map (·.program)) s

namespace Backend.Store

variable (s : Store) (actions : List Adapter.Action) (a : Adapter.Action)

/-- The last operation works on what the others left. -/
theorem perform_concat :
    s.perform (actions ++ [a]) =
      ((s.perform actions).1 ++ [(a.program.run handle (s.perform actions).2).1],
        (a.program.run handle (s.perform actions).2).2) := by
  unfold perform
  rw [List.map_append, List.map_singleton, runEach_concat]

/-- Runs do not change which calls are made to fail. -/
theorem errors_run (p : Program α) : (p.run handle s).2.errors = s.errors := by
  refine run_invariant (I := fun t : Store => t.errors = s.errors) (fun c t ht => ?_) p rfl
  rcases handle_cases t c with ⟨e, hfailed⟩ | hanswer
  · rw [hfailed]
    exact ht
  · rw [hanswer]
    exact (errors_answer c t).trans ht

/-- Each outcome is that of an operation on what those before it left. -/
theorem exists_of_mem_perform {s : Store} {actions : List Adapter.Action}
    {outcome : Except Failure Adapter.Answer} (h : outcome ∈ (s.perform actions).1) :
    ∃ before a after, actions = before ++ a :: after ∧
      outcome = (a.program.run handle (s.perform before).2).1 := by
  induction actions using List.reverseRecOn with
  | nil => contradiction
  | append_singleton init last ih =>
      rw [perform_concat] at h
      rcases List.mem_append.1 h with hinit | hlast
      · obtain ⟨before, a, after, rfl, houtcome⟩ := ih hinit
        exact ⟨before, a, after ++ [last], by simp, houtcome⟩
      · exact ⟨init, last, [], rfl, List.mem_singleton.1 hlast⟩

/-- No sequence of operations changes which calls are made to fail. -/
theorem errors_perform : (s.perform actions).2.errors = s.errors := by
  induction actions using List.reverseRecOn with
  | nil => rfl
  | append_singleton before a ih =>
      rw [perform_concat]
      exact (errors_run _ _).trans ih

end Backend.Store

end Stevedore
