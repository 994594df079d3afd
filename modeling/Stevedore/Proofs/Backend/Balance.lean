import Stevedore.Proofs.Backend.Names
/-!
# Creations, deletions and what is stored

What a call of a transcript created or deleted can be told from its answer. For each name the balance
of these calls is what is stored: a controller is created only where there is none of its name, and
deleted only where there is one.

Main results:

- Theorem `stored_answer`: what one call does to the balance of a name.
-/

namespace Stevedore

open Cluster Program

namespace Backend

/-! ## What a call creates and deletes -/

/-- The controller that the call stored. -/
def Exchange.createdController : Exchange → Option Controller
  | ⟨.createController c, .ok _⟩ =>
    some { c with status := some { c.status.getD {} with replicas := 0 } }
  | _ => none

/-- The network service that the call stored. -/
def Exchange.createdService : Exchange → Option NetworkService
  | ⟨.createService v, .ok _⟩ => some v
  | _ => none

/-- The call stored a controller of this name. -/
def Exchange.creates (name : String) (x : Exchange) : Bool :=
  x.createdController.any fun c => c.metadata.name == some name

/-- The call deleted the controller of this name. -/
def Exchange.deletes (name : String) : Exchange → Bool
  | ⟨.deleteController other, .ok _⟩ => other == name
  | _ => false

namespace Store

/-! ## Balances -/

/-- How often a controller of this name is stored, if names are distinct. -/
def stored (s : Store) (name : String) : Nat := if s.HasController name then 1 else 0

/-- A controller that takes the place of another one of its name takes no name away. -/
theorem mem_names_replaceFirst_iff {name : String} {new : Controller}
    (hnew : new.metadata.name = some name) (controllers : List Controller) (other : String) :
    (∃ c ∈ replaceFirst name new controllers, c.metadata.name = some other) ↔
      ∃ c ∈ controllers, c.metadata.name = some other := by
  induction controllers with
  | nil => simp [replaceFirst]
  | cons c rest ih =>
      unfold replaceFirst
      by_cases hc : c.metadata.name = some name
      · rw [if_pos hc]
        simp only [List.mem_cons, or_and_right, exists_or, exists_eq_left, hnew, hc]
      · rw [if_neg hc]
        simp only [List.mem_cons, or_and_right, exists_or, exists_eq_left, ih]

section Calls

variable (s : Store) (name : String)

/-- Storing a controller adds its name, which was not there. -/
theorem stored_createController (c : Controller) :
    s.stored name +
        (if (Exchange.mk (.createController c) (s.createController c).1).creates name then 1 else 0) =
      (s.createController c).2.stored name := by
  unfold createController
  by_cases htaken : (s.controller? c.nameOrEmpty).isSome
  · rw [if_pos htaken]
    rfl
  · rw [if_neg htaken]
    rw [isSome_controller?_iff] at htaken
    have hcreates : (Exchange.mk (.createController c) (.ok (c.observing 0))).creates name ↔
        c.metadata.name = some name := by
      simp [Exchange.creates, Exchange.createdController]
    have hafter : Store.HasController { s with controllers := s.controllers ++ [c.observing 0] } name ↔
        s.HasController name ∨ c.metadata.name = some name := by
      simp [HasController, or_and_right, exists_or]
    simp only [stored, hcreates, hafter]
    by_cases hname : c.metadata.name = some name
    · rw [Controller.nameOrEmpty_of_name hname] at htaken
      simp [hname, htaken]
    · simp [hname]

/-- Deleting a controller takes its name away, which was there. -/
theorem stored_deleteController (other : String) :
    s.stored name =
      (s.deleteController other).2.stored name +
        if (Exchange.mk (.deleteController other) (s.deleteController other).1).deletes name then 1
        else 0 := by
  unfold deleteController
  by_cases hfound : (s.controller? other).isSome
  · rw [if_pos hfound]
    rw [isSome_controller?_iff] at hfound
    have hafter : Store.HasController { s with
        controllers := s.controllers.filter fun c => c.metadata.name != some other } name ↔
        s.HasController name ∧ name ≠ other := by
      constructor
      · intro hkept
        rcases hkept with ⟨c, hc, hname⟩
        have hc := List.mem_filter.1 hc
        refine ⟨⟨c, hc.1, hname⟩, ?_⟩
        intro hsame
        simp [hname, hsame] at hc
      · intro hother
        rcases hother with ⟨⟨c, hc, hname⟩, hne⟩
        refine ⟨c, List.mem_filter.2 ⟨hc, ?_⟩, hname⟩
        simp [hname, hne]
    have hdeletes : (Exchange.mk (.deleteController other) (.ok ())).deletes name ↔ other = name := by
      simp [Exchange.deletes]
    simp only [stored, hdeletes, hafter]
    by_cases hname : other = name
    · subst hname
      simp [hfound]
    · simp [hname, Ne.symm hname]
  · rw [if_neg hfound]
    rfl

/-- An update takes no name away. -/
theorem stored_updateController {c : Controller} (hname : c.metadata.name ≠ none) :
    (s.updateController c).2.stored name = s.stored name := by
  unfold updateController
  split
  · rcases Option.ne_none_iff_exists'.1 hname with ⟨own, hown⟩
    have hafter : Store.HasController { s with
        controllers := replaceFirst c.nameOrEmpty c s.controllers } name ↔ s.HasController name := by
      rw [Controller.nameOrEmpty_of_name hown]
      exact mem_names_replaceFirst_iff hown s.controllers name
    simp only [stored, hafter]
  · rfl

end Calls

/-- For each name, creations and deletions of its controller balance with what is stored. -/
theorem stored_answer (s : Store) {c : Call}
    (hnamed : ∀ u, c = .updateController u → u.metadata.name ≠ none) (name : String) :
    s.stored name + (if (Exchange.mk c (answer c s).1).creates name then 1 else 0) =
      (answer c s).2.stored name +
        if (Exchange.mk c (answer c s).1).deletes name then 1 else 0 := by
  cases c with
  | createController c => exact stored_createController s name c
  | deleteController other => exact stored_deleteController s name other
  | updateController c =>
      have hkept := stored_updateController s name (hnamed c rfl)
      change s.stored name + 0 = (s.updateController c).2.stored name + 0
      rw [hkept]
  | getController other =>
      change s.stored name + 0 = (s.getController other).2.stored name + 0
      unfold getController
      split <;> rfl
  | listPods selector =>
      change s.stored name + 0 = (s.listPods selector).2.stored name + 0
      unfold listPods
      split <;> rfl
  | createService v =>
      change s.stored name + 0 = (s.createService v).2.stored name + 0
      unfold createService
      split <;> rfl
  | listControllers => rfl
  | listServices selector => rfl
  | deleteService other => rfl
  | health => rfl

end Store

end Backend

end Stevedore
