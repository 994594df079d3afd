import Stevedore.Proofs.Adapter.Actions
import Stevedore.Proofs.Lifecycle.Requests
/-!
# How operations fail

A call that fails ends the operation with its error, wherever in the operation it stands. Only while a
removal waits for pods does a failure not count: the objects are gone by then. An operation never ends
without an answer, but for a removal whose wait cannot be represented.

Main results:

- Theorem `call_ne_health`: which operations look at nothing but objects.
- Theorem `ends_of_failure`: what a failed call does to an operation.
- Theorem `exists_removal_of_crash`: which operations may crash.
-/

namespace Stevedore.Adapter

open Backend Cluster Program Lifecycle

/-! ## Operations on objects -/

section

variable (handler : Handler σ)

/-- A creation never asks for the health. -/
theorem ne_health_of_create (config : Config) (batch : List Service) (s : σ) :
    ∀ x ∈ (Adapter.create config batch).transcript handler s, x.call ≠ .health := by
  intro x hx hcall
  have hmakes := Request.makes_of_create handler s config batch x hx
  rw [hcall] at hmakes
  nomatch hmakes

/-- The part of a removal before the wait never asks for the health. -/
theorem ne_health_of_dismantle (id : String) (s : σ) :
    ∀ x ∈ (dismantle id).transcript handler s, x.call ≠ .health := by
  obtain ⟨c, listed, updated, hcalls, -⟩ := calls_of_dismantle handler s id
  intro x hx
  obtain ⟨y, hy, hcall⟩ := hcalls x hx
  rw [← hcall]
  exact call_ne_health_of_mem_removal hy

/-- A removal never asks for the health. -/
theorem ne_health_of_destroy (r : Removal) (s : σ) :
    ∀ x ∈ r.program.transcript handler s, x.call ≠ .health := by
  refine forall_transcript_bind (ne_health_of_dismantle handler r.id s) fun selector s x hx => ?_
  rw [Teardown.listPods_of_wait _ _ _ _ _ x hx]
  simp

/-- Only for what the adapter says about itself the health is asked for. -/
theorem call_ne_health {a : Action} (ha : ∀ config, a ≠ .info config) (s : σ) :
    ∀ x ∈ a.program.transcript handler s, x.call ≠ .health := by
  cases a with
  | list =>
      unfold Action.program
      rw [transcript_bind_done]
      intro x hx
      rcases calls_of_list handler s x hx with hcall | ⟨selector, hcall⟩ <;> simp [hcall]
  | get id =>
      unfold Action.program
      rw [transcript_bind_done]
      intro x hx
      rcases calls_of_get handler id s x hx with hcall | ⟨selector, hcall⟩ <;> simp [hcall]
  | create config batch =>
      unfold Action.program
      rw [transcript_bind_done]
      exact ne_health_of_create handler config batch s
  | destroy r =>
      unfold Action.program
      rw [transcript_bind_done]
      exact ne_health_of_destroy handler r s
  | info config => exact absurd rfl (ha config)

end

/-! ## Operations that end with the first failure -/

/-- A listing ends with the first call that fails. -/
theorem failsFast_list : FailsFast Adapter.list :=
  asks_listControllers.failsFast.bind fun controllers =>
    FailsFast.forEach failsFast_recordOf controllers

/-- Showing one deployment ends with the first call that fails. -/
theorem failsFast_get (id : String) : FailsFast (Adapter.get id) :=
  (asks_getController id).failsFast.bind failsFast_recordOf

/-- The question after its health cannot fail a backend. -/
theorem failsFast_info (config : Config) : FailsFast (Adapter.info config) := by
  have hhealth : FailsFast Program.health :=
    .call (fun _ _ hfail => nomatch hfail) fun healthy _ => .done healthy
  exact hhealth.bind fun healthy => .done _

/-- The creation of a batch that is rejected makes no call. -/
theorem create_cases (config : Config) (batch : List Service) :
    FailsFast (Adapter.create config batch) ∨ ∃ e, Adapter.create config batch = fail (.error e) := by
  cases h : Exposure.resolve config.externalIps batch with
  | ok services => exact .inl (failsFast_create h)
  | error r =>
      refine .inr ⟨r.toError, ?_⟩
      unfold Adapter.create Lifecycle.create
      rw [h]

/-- The operation is a removal, or ends with the first failure, or is rejected. -/
theorem action_cases (a : Action) :
    (∃ r, a = .destroy r) ∨ FailsFast a.program ∨ ∃ e, a.program = fail (.error e) := by
  cases a with
  | list => exact .inr (.inl (failsFast_list.bind fun _ => .done _))
  | get id => exact .inr (.inl ((failsFast_get id).bind fun _ => .done _))
  | create config batch =>
      rcases create_cases config batch with hfast | ⟨e, hrejected⟩
      · exact .inr (.inl (hfast.bind fun _ => .done _))
      · refine .inr (.inr ⟨e, ?_⟩)
        change (Adapter.create config batch >>= _) = _
        rw [hrejected]
        rfl
  | destroy r => exact .inl ⟨r, rfl⟩
  | info config => exact .inr (.inl ((failsFast_info config).bind fun _ => .done _))

/-! ## Failed calls -/

section

variable {handler : Handler σ} {s : σ} {before after : List Exchange} {x : Exchange}
  {e : BackendError}

/-- A removal ends with a call that fails, unless that lists the pods for which it waits. -/
theorem destroy_ends_of_failure (r : Removal)
    (ht : r.program.transcript handler s = before ++ x :: after) (hx : x.failure? = some e)
    (hwait : ∀ selector, x.call ≠ .listPods selector) :
    after = [] ∧ (r.program.run handler s).1 = .error (.error e.toError) := by
  unfold Removal.program Lifecycle.destroy at ht ⊢
  rw [transcript_bind] at ht
  have hmem : x ∈ (dismantle r.id).transcript handler s := by
    have hx : x ∈ before ++ x :: after := by simp
    rw [← ht] at hx
    rcases List.mem_append.1 hx with hdismantle | hlater
    · exact hdismantle
    · split at hlater
      · exact absurd (Teardown.listPods_of_wait _ _ _ _ _ x hlater) (hwait _)
      · contradiction
  obtain ⟨before', after', hsplit⟩ := List.append_of_mem hmem
  have hfast := failsFast_dismantle r.id
  obtain ⟨-, hrun⟩ := hfast.ends_of_failure hsplit hx
  have hpair : (dismantle r.id).run handler s =
      (.error (.error e.toError), ((dismantle r.id).run handler s).2) := by
    rw [← hrun]
  rw [hpair] at ht
  rw [run_bind, hpair]
  simp only [List.append_nil] at ht
  exact ⟨(hfast.ends_of_failure ht hx).1, rfl⟩

/-- An operation ends with a call that fails, and returns its error, unless the call lists the pods for
which a removal waits. -/
theorem ends_of_failure {a : Action} (ht : a.program.transcript handler s = before ++ x :: after)
    (hx : x.failure? = some e)
    (hwait : ∀ r selector, a = .destroy r → x.call ≠ .listPods selector) :
    after = [] ∧ (a.program.run handler s).1 = .error (.error e.toError) := by
  rcases action_cases a with ⟨r, rfl⟩ | hfast | ⟨e', hrejected⟩
  · change (r.program >>= fun _ => done Answer.destroyed).transcript handler s = _ at ht
    change _ ∧ ((r.program >>= fun _ => done Answer.destroyed).run handler s).1 = _
    rw [transcript_bind_done] at ht
    obtain ⟨hafter, hrun⟩ := destroy_ends_of_failure r ht hx fun selector => hwait r selector rfl
    exact ⟨hafter, by rw [run_bind_done_fst, hrun]; rfl⟩
  · exact hfast.ends_of_failure ht hx
  · rw [hrejected, transcript_fail] at ht
    simp at ht

end

/-! ## Operations without an answer -/

/-- Only a removal whose wait cannot be represented ends without an answer. -/
theorem exists_removal_of_crash {handler : Handler σ} {s : σ} {a : Action}
    (h : (a.program.run handler s).1 = .error .crash) : ∃ r, a = .destroy r ∧ ¬ r.Ends := by
  rcases action_cases a with ⟨r, rfl⟩ | hfast | ⟨e, hrejected⟩
  · refine ⟨r, rfl, fun hends => ?_⟩
    change ((r.program >>= fun _ => done Answer.destroyed).run handler s).1 = _ at h
    rw [run_bind_done_fst] at h
    obtain ⟨c, listed, updated, ⟨looks, -, -, hok⟩ | ⟨e, -, herror⟩⟩ :=
      destroy_cases handler s r.config r.clock r.id hends
    · have hrun : (r.program.run handler s).1 = .ok () := hok
      rw [hrun] at h
      nomatch h
    · have hrun : (r.program.run handler s).1 = .error (.error e.toError) := herror
      rw [hrun] at h
      nomatch h
  · rcases hfast.run_cases handler s with ⟨answer, -, hok⟩ | ⟨full, answer, e, -, -, herror⟩
    · rw [hok] at h
      nomatch h
    · rw [herror] at h
      nomatch h
  · rw [hrejected] at h
    nomatch h

end Stevedore.Adapter
