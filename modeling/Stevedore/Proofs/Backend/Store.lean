import Stevedore.Backend.Store
import Stevedore.Proofs.Transcript
/-!
# The backend in memory

What single calls do to the objects in memory, and what a journal notes of the calls of a transcript.

Main results:

- Theorem `handle_cases`: a call fails without effect, or it is answered from the objects.
- Theorem `run_handle`: without failures on demand a run goes by the answers alone.
- Theorem `controller?_of_updateController`: an accepted update is what is stored under its name.
- Theorem `calls_replay`: a journal notes each call with what was stored when it came.
-/

namespace Stevedore.Backend

open Cluster Program

namespace Store

/-! ## The wording of errors -/

/-- The whole text of the failure to find a controller. -/
theorem controllerNotFound_eq (name : String) :
    controllerNotFound name = .notFound ("replicationcontrollers \"" ++ name ++ "\" not found") := by
  rw [controllerNotFound, inQuotes, BackendError.notFound.injEq, ← String.toList_inj]
  simp

/-- The whole text of the failure to create a controller. -/
theorem controllerExists_eq (name : String) :
    controllerExists name =
      .alreadyExists ("replicationcontrollers \"" ++ name ++ "\" already exists") := by
  rw [controllerExists, inQuotes, BackendError.alreadyExists.injEq, ← String.toList_inj]
  simp

/-- The whole text of the failure to create a network service. -/
theorem serviceExists_eq (name : String) :
    serviceExists name = .alreadyExists ("services \"" ++ name ++ "\" already exists") := by
  rw [serviceExists, inQuotes, BackendError.alreadyExists.injEq, ← String.toList_inj]
  simp

/-! ## Creations -/

section

variable {s : Store}

/-- A controller whose name is taken is refused. -/
theorem createController_of_taken {c : Controller} (h : (s.controller? c.nameOrEmpty).isSome) :
    s.createController c = (.error (.alreadyExists
      ("replicationcontrollers \"" ++ c.nameOrEmpty ++ "\" already exists")), s) := by
  unfold createController
  rw [if_pos h, controllerExists_eq]

/-- A controller whose name is free is stored as if none of its pods had been observed. -/
theorem createController_of_free {c : Controller} (h : ¬ (s.controller? c.nameOrEmpty).isSome) :
    s.createController c =
      (.ok { c with status := some { c.status.getD {} with replicas := 0 } },
        { s with controllers := s.controllers ++
            [{ c with status := some { c.status.getD {} with replicas := 0 } }] }) :=
  if_neg h

/-- A network service whose name is taken is refused. -/
theorem createService_of_taken {v : NetworkService} (h : (s.service? v.nameOrEmpty).isSome) :
    s.createService v =
      (.error (.alreadyExists ("services \"" ++ v.nameOrEmpty ++ "\" already exists")), s) := by
  unfold createService
  rw [if_pos h, serviceExists_eq]

/-- A network service whose name is free is stored. -/
theorem createService_of_free {v : NetworkService} (h : ¬ (s.service? v.nameOrEmpty).isSome) :
    s.createService v = (.ok v, { s with services := s.services ++ [v] }) :=
  if_neg h

end

/-! ## Single calls -/

/-- A call is made to fail and then changes nothing, or it is answered. -/
theorem handle_cases (s : Store) (c : Call) :
    (∃ e, handle c s = (c.failed e, s)) ∨ handle c s = answer c s := by
  unfold handle
  cases c.operation?.bind s.errors with
  | some e => exact .inl ⟨e, rfl⟩
  | none => exact .inr rfl

/-- A call that is not made to fail is answered. -/
theorem handle_of_unharmed {s : Store} {c : Call} (h : c.operation?.bind s.errors = none) :
    handle c s = answer c s := by
  unfold handle
  rw [h]

/-- Without failures on demand every call is answered. -/
theorem handle_of_errors_eq_none {s : Store} (hs : ∀ op, s.errors op = none) (c : Call) :
    handle c s = answer c s := by
  apply handle_of_unharmed
  cases c.operation? with
  | none => rfl
  | some op => exact hs op

/-- No answer changes which calls are made to fail. -/
theorem errors_answer (c : Call) (s : Store) : (answer c s).2.errors = s.errors := by
  cases c with
  | getController name =>
      change (s.getController name).2.errors = s.errors
      unfold getController
      split <;> rfl
  | createController c =>
      change (s.createController c).2.errors = s.errors
      unfold createController
      split <;> rfl
  | updateController c =>
      change (s.updateController c).2.errors = s.errors
      unfold updateController
      split <;> rfl
  | deleteController name =>
      change (s.deleteController name).2.errors = s.errors
      unfold deleteController
      split <;> rfl
  | listPods selector =>
      change (s.listPods selector).2.errors = s.errors
      unfold listPods
      split <;> rfl
  | createService v =>
      change (s.createService v).2.errors = s.errors
      unfold createService
      split <;> rfl
  | _ => rfl

/-- Without failures on demand a whole run goes by the answers alone. -/
theorem run_handle {s : Store} (hs : ∀ op, s.errors op = none) (p : Program α) :
    p.run handle s = p.run answer s ∧ p.transcript handle s = p.transcript answer s := by
  induction p generalizing s with
  | done a => exact ⟨rfl, rfl⟩
  | fail e => exact ⟨rfl, rfl⟩
  | call c next ih =>
      rw [run_call, run_call, transcript_call, transcript_call, handle_of_errors_eq_none hs]
      have hafter : ∀ op, (answer c s).2.errors op = none := by
        rw [errors_answer]
        exact hs
      rcases ih (answer c s).1 hafter with ⟨hrun, htranscript⟩
      exact ⟨hrun, by rw [htranscript]⟩

/-! ## Controllers -/

/-- What is found under a name has that name. -/
theorem name_of_controller? {s : Store} {name : String} {c : Controller}
    (h : s.controller? name = some c) : c.metadata.name = some name := by
  unfold controller? at h
  simpa using List.find?_some h

/-- A controller that is found under a name has this name. -/
theorem name_of_getController {s : Store} {name : String} {c : Controller}
    (h : (handle (.getController name) s).1 = .ok c) : c.metadata.name = some name := by
  rcases handle_cases s (.getController name) with ⟨e, hfailed⟩ | hanswer
  · rw [hfailed] at h
    nomatch h
  · rw [hanswer] at h
    change (s.getController name).1 = .ok c at h
    unfold getController at h
    cases hfound : s.controller? name with
    | none => simp [hfound] at h
    | some found =>
        obtain rfl : found = c := by simpa [hfound] using h
        exact name_of_controller? hfound

/-- The controller that is put in place of the first one of its name is found there. -/
theorem find?_replaceFirst {name : String} {new : Controller} (hnew : new.metadata.name = some name)
    {controllers : List Controller}
    (h : (controllers.find? fun c => c.metadata.name == some name).isSome) :
    ((replaceFirst name new controllers).find? fun c => c.metadata.name == some name) =
      some new := by
  induction controllers with
  | nil => simp at h
  | cons c rest ih =>
      unfold replaceFirst
      by_cases hc : c.metadata.name = some name
      · rw [if_pos hc, List.find?_cons_of_pos (by simpa using hnew)]
      · have hne : (c.metadata.name == some name) = false := by simpa using hc
        rw [if_neg hc, List.find?_cons, hne]
        rw [List.find?_cons, hne] at h
        exact ih h

/-- Under other names the same controllers are found as before. -/
theorem find?_replaceFirst_of_ne {name other : String} {new : Controller}
    (hnew : new.metadata.name = some name) (hother : other ≠ name) (controllers : List Controller) :
    ((replaceFirst name new controllers).find? fun c => c.metadata.name == some other) =
      controllers.find? fun c => c.metadata.name == some other := by
  have hne : ∀ {c : Controller}, c.metadata.name = some name →
      (c.metadata.name == some other) = false := by
    intro c hc
    rw [hc]
    simpa using Ne.symm hother
  induction controllers with
  | nil => rfl
  | cons c rest ih =>
      unfold replaceFirst
      by_cases hc : c.metadata.name = some name
      · rw [if_pos hc, List.find?_cons, List.find?_cons, hne hnew, hne hc]
      · rw [if_neg hc, List.find?_cons, List.find?_cons, ih]

/-- A controller takes the place of one of its name, so the names stay what they were. -/
theorem map_name_replaceFirst {name : String} {new : Controller}
    (hnew : new.metadata.name = some name) (controllers : List Controller) :
    (replaceFirst name new controllers).map (·.metadata.name) =
      controllers.map (·.metadata.name) := by
  induction controllers with
  | nil => rfl
  | cons c rest ih =>
      unfold replaceFirst
      by_cases hc : c.metadata.name = some name
      · rw [if_pos hc, List.map_cons, List.map_cons, hnew, hc]
      · rw [if_neg hc, List.map_cons, List.map_cons, ih]

/-- Whatever is stored after a replacement was there before or is the replacement. -/
theorem mem_replaceFirst {name : String} {new c : Controller} {controllers : List Controller}
    (h : c ∈ replaceFirst name new controllers) : c = new ∨ c ∈ controllers := by
  induction controllers with
  | nil => contradiction
  | cons first rest ih =>
      unfold replaceFirst at h
      split at h
      · rcases List.mem_cons.1 h with rfl | hrest
        · exact .inl rfl
        · exact .inr (List.mem_cons_of_mem first hrest)
      · rcases List.mem_cons.1 h with rfl | hrest
        · exact .inr List.mem_cons_self
        · exact (ih hrest).imp_right (List.mem_cons_of_mem first)

/-- After an accepted update the new controller is stored under its name. -/
theorem controller?_of_updateController {s : Store} {name : String} {c updated : Controller}
    (hname : c.metadata.name = some name)
    (h : (handle (.updateController c) s).1 = .ok updated) :
    (handle (.updateController c) s).2.controller? name = some c := by
  rcases handle_cases s (.updateController c) with ⟨e, hfailed⟩ | hanswer
  · rw [hfailed] at h
    nomatch h
  · rw [hanswer] at h ⊢
    change (s.updateController c).1 = .ok updated at h
    change (s.updateController c).2.controller? name = some c
    have hkey : c.nameOrEmpty = name := by
      simp [Controller.nameOrEmpty, hname]
    unfold updateController at h ⊢
    rw [hkey] at h ⊢
    by_cases hstored : (s.controller? name).isSome
    · rw [if_pos hstored]
      exact find?_replaceFirst hname hstored
    · rw [if_neg hstored] at h
      nomatch h

end Store

/-! ## Journals -/

/-- What is noted of a call is the call itself. -/
theorem Store.call_sighting (s : Store) (c : Call) : (s.sighting c).call = c := by
  cases c <;> rfl

namespace Journal

/-- The calls change the store of a journal as they do by themselves. -/
theorem store_snd_handle (j : Journal) (c : Call) :
    (handle c j).2.store = (Store.handle c j.store).2 :=
  rfl

/-- A journal notes each call of a transcript with what was stored when it came. -/
theorem calls_replay (j : Journal) (t : List Exchange) :
    ∃ noted, (replay handle j t).calls = j.calls ++ noted ∧
      ∀ g ∈ noted, ∃ before x after, t = before ++ x :: after ∧
        g = (replay handle j before).store.sighting x.call := by
  induction t generalizing j with
  | nil => exact ⟨[], by simp [replay], by simp⟩
  | cons first rest ih =>
      rcases ih (handle first.call j).2 with ⟨noted, hcalls, hnoted⟩
      refine ⟨j.store.sighting first.call :: noted, ?_, ?_⟩
      · have hfirst : (handle first.call j).2.calls = j.calls ++ [j.store.sighting first.call] := rfl
        rw [hfirst, List.append_assoc] at hcalls
        exact hcalls
      · intro g hg
        rcases List.mem_cons.1 hg with rfl | hg
        · exact ⟨[], first, rest, rfl, rfl⟩
        · rcases hnoted g hg with ⟨before, x, after, rfl, rfl⟩
          exact ⟨first :: before, x, after, rfl, rfl⟩

end Journal

end Stevedore.Backend
