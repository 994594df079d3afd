import Stevedore.Proofs.Backend.Names
/-!
# Backends whose calls may fail

A call to a cluster may fail for many reasons, and then it has no effect. What a backend over a store
does when calls fail is not fixed here: any call may fail at any time with any error. What is fixed
is that a call which does not fail is answered from the store.

Main definitions:

- `Fallible`: a backend over a store of which this holds.
- `Store.mended`: a store of whose calls no failure is asked any more.
- `Store.interrupted`: a backend whose calls fail as a plan says.

Main results:

- Theorems `fallible_handle`, `fallible_journal` and `fallible_interrupted`: such backends.
- Theorem `Fallible.eq_of_failure`: a call that fails changes nothing, also one that is answered so.
- Theorem `Fallible.run_of_success`: a run in which no call fails goes by the answers.
-/

namespace Stevedore.Backend

open Cluster Program

/-- A backend over a store. A call fails without effect, or it is answered from the store. -/
def Fallible (handler : Handler σ) (store : σ → Store) : Prop :=
  ∀ c s, (∃ e, (handler c s).1 = c.failed e ∧ store (handler c s).2 = store s) ∨
    ((handler c s).1 = (Store.answer c (store s)).1 ∧
      store (handler c s).2 = (Store.answer c (store s)).2)

namespace Store

/-- The store with no failure asked for. -/
def mended (s : Store) : Store := { s with errors := fun _ => none }

/-- Names stay distinct when no failures are asked for any more. -/
theorem DistinctNames.mended {s : Store} (h : s.DistinctNames) : s.mended.DistinctNames :=
  ⟨h.controllers_nodup, h.services_nodup⟩

/-- A store behind a connection that fails as a plan says: for each call, by its number, it tells
whether the call fails, and how. -/
def interrupted (plan : Nat → Call → Option BackendError) : Handler (Store × Nat) := fun c s =>
  match plan s.2 c with
  | some e => (c.failed e, (s.1, s.2 + 1))
  | none => ((answer c s.1).1, ((answer c s.1).2, s.2 + 1))

/-- An answer that reports a failure changes nothing. -/
theorem answer_of_failure {c : Call} {s : Store} {e : BackendError}
    (h : c.failure? (answer c s).1 = some e) : (answer c s).2 = s := by
  cases c with
  | getController name =>
      change (s.getController name).2 = s
      unfold getController
      split <;> rfl
  | createController c =>
      change errorOf? (s.createController c).1 = some e at h
      change (s.createController c).2 = s
      unfold createController at h ⊢
      split at h
      · next htaken => rw [if_pos htaken]
      · contradiction
  | updateController c =>
      change errorOf? (s.updateController c).1 = some e at h
      change (s.updateController c).2 = s
      unfold updateController at h ⊢
      split at h
      · contradiction
      · next habsent => rw [if_neg habsent]
  | deleteController name =>
      change errorOf? (s.deleteController name).1 = some e at h
      change (s.deleteController name).2 = s
      unfold deleteController at h ⊢
      split at h
      · contradiction
      · next habsent => rw [if_neg habsent]
  | listPods selector =>
      change errorOf? (s.listPods selector).1 = some e at h
      unfold listPods at h
      split at h <;> contradiction
  | createService v =>
      change errorOf? (s.createService v).1 = some e at h
      change (s.createService v).2 = s
      unfold createService at h ⊢
      split at h
      · next htaken => rw [if_pos htaken]
      · contradiction
  | _ => contradiction

end Store

/-- That a call failed can be told from its answer, unless it asked for the health. -/
theorem Call.failure?_failed {c : Call} (hc : c ≠ .health) (e : BackendError) :
    c.failure? (c.failed e) = some e := by
  cases c with
  | health => contradiction
  | _ => rfl

/-! ## Such backends -/

/-- A store some operations of which are made to fail. -/
theorem fallible_handle : Fallible Store.handle id := by
  intro c s
  rcases Store.handle_cases s c with ⟨e, hfailed⟩ | hanswer
  · exact .inl ⟨e, by rw [hfailed], by rw [hfailed]⟩
  · exact .inr ⟨by rw [hanswer]; rfl, by rw [hanswer]; rfl⟩

/-- The same with a note of every call. -/
theorem fallible_journal : Fallible Journal.handle Journal.store := fun c j =>
  fallible_handle c j.store

/-- A store whose calls fail as a plan says. -/
theorem fallible_interrupted (plan : Nat → Call → Option BackendError) :
    Fallible (Store.interrupted plan) Prod.fst := by
  intro c s
  unfold Store.interrupted
  cases plan s.2 c with
  | some e => exact .inl ⟨e, rfl, rfl⟩
  | none => exact .inr ⟨rfl, rfl⟩

namespace Fallible

variable {handler : Handler σ} {store : σ → Store}

/-- A call that reports a failure has changed nothing. -/
theorem eq_of_failure (hf : Fallible handler store) {c : Call} {s : σ} {e : BackendError}
    (h : c.failure? (handler c s).1 = some e) : store (handler c s).2 = store s := by
  rcases hf c s with ⟨_, -, hkept⟩ | ⟨hreply, hstate⟩
  · exact hkept
  · rw [hreply] at h
    rw [hstate]
    exact Store.answer_of_failure h

/-- A call that reports none was answered from the store. -/
theorem eq_answer_of_success (hf : Fallible handler store) {c : Call} (hc : c ≠ .health) {s : σ}
    (h : c.failure? (handler c s).1 = none) :
    (handler c s).1 = (Store.answer c (store s)).1 ∧
      store (handler c s).2 = (Store.answer c (store s)).2 := by
  rcases hf c s with ⟨e, hfailed, -⟩ | hanswer
  · rw [hfailed, Call.failure?_failed hc] at h
    contradiction
  · exact hanswer

/-- A run in which no call fails goes by the answers. -/
theorem run_of_success (hf : Fallible handler store) {p : Program α} {s : σ}
    (h : ∀ x ∈ p.transcript handler s, x.failure? = none ∧ x.call ≠ .health) :
    (p.run handler s).1 = (p.run Store.answer (store s)).1 ∧
      store (p.run handler s).2 = (p.run Store.answer (store s)).2 := by
  induction p generalizing s with
  | done a => exact ⟨rfl, rfl⟩
  | fail e => exact ⟨rfl, rfl⟩
  | call c next ih =>
      rw [transcript_call, List.forall_mem_cons] at h
      obtain ⟨⟨hsuccess, hc⟩, hrest⟩ := h
      obtain ⟨hreply, hstate⟩ := hf.eq_answer_of_success hc hsuccess
      have hnext := ih (handler c s).1 hrest
      rw [hstate] at hnext
      rw [run_call, run_call, ← hreply]
      exact hnext

end Fallible

end Stevedore.Backend
