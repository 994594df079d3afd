import Stevedore.Proofs.Backend.Store
/-!
# Names in a store

Objects in memory are found by their names. No call gives a name away twice: a store whose names are
distinct at the start keeps them distinct, whatever is asked of it.

Main results:

- Theorems `isSome_controller?_iff` and `isSome_service?_iff`: a name is found if an object has it.
- Theorem `distinctNames_handle`: calls keep names distinct.
- Theorem `distinctNames_run`: so do whole runs.
-/

namespace Stevedore

open Cluster

theorem Cluster.Controller.nameOrEmpty_of_name {c : Controller} {name : String}
    (h : c.metadata.name = some name) : c.nameOrEmpty = name := by
  simp [nameOrEmpty, h]

theorem Cluster.NetworkService.nameOrEmpty_of_name {v : NetworkService} {name : String}
    (h : v.metadata.name = some name) : v.nameOrEmpty = name := by
  simp [nameOrEmpty, h]

/-- A controller with a name has the one that lookups use. -/
theorem Cluster.Controller.name_of_named {c : Controller} (h : c.metadata.name ≠ none) :
    c.metadata.name = some c.nameOrEmpty := by
  obtain ⟨name, hname⟩ := Option.ne_none_iff_exists'.1 h
  rw [hname, c.nameOrEmpty_of_name hname]

/-- A network service with a name has the one that lookups use. -/
theorem Cluster.NetworkService.name_of_named {v : NetworkService} (h : v.metadata.name ≠ none) :
    v.metadata.name = some v.nameOrEmpty := by
  obtain ⟨name, hname⟩ := Option.ne_none_iff_exists'.1 h
  rw [hname, v.nameOrEmpty_of_name hname]

namespace Backend.Store

open Program

/-! ## Names that are stored -/

/-- A network service of this name is stored. -/
def HasService (s : Store) (name : String) : Prop :=
  ∃ v ∈ s.services, v.metadata.name = some name

/-- A controller of this name is stored. -/
def HasController (s : Store) (name : String) : Prop :=
  ∃ c ∈ s.controllers, c.metadata.name = some name

/-- A network service is found exactly if one of this name is stored. -/
theorem isSome_service?_iff (s : Store) (name : String) :
    (s.service? name).isSome ↔ s.HasService name := by
  simp [service?, HasService]

/-- A controller is found exactly if one of this name is stored. -/
theorem isSome_controller?_iff (s : Store) (name : String) :
    (s.controller? name).isSome ↔ s.HasController name := by
  simp [controller?, HasController]

instance (s : Store) (name : String) : Decidable (s.HasController name) :=
  decidable_of_iff _ (isSome_controller?_iff s name)

/-- The names of the stored controllers. -/
def controllerNames (s : Store) : List String := s.controllers.filterMap (·.metadata.name)

/-- The names of the stored network services. -/
def serviceNames (s : Store) : List String := s.services.filterMap (·.metadata.name)

/-- The names of a store are those of its controllers. -/
theorem mem_controllerNames_iff (s : Store) (name : String) :
    name ∈ s.controllerNames ↔ s.HasController name := by
  simp [controllerNames, HasController]

/-- The names of network services are those that are stored. -/
theorem mem_serviceNames_iff (s : Store) (name : String) :
    name ∈ s.serviceNames ↔ s.HasService name := by
  simp [serviceNames, HasService]

/-! ## Distinct names -/

/-- No two controllers have one name, and no two network services. -/
structure DistinctNames (s : Store) : Prop where
  controllers_nodup : s.controllerNames.Nodup
  services_nodup : s.serviceNames.Nodup

/-- Where keys are distinct, items of one key are one item. -/
theorem eq_of_nodup_filterMap {α β : Type} {f : α → Option β} {items : List α}
    (h : (items.filterMap f).Nodup) {a b : α} (ha : a ∈ items) (hb : b ∈ items) {key : β}
    (hakey : f a = some key) (hbkey : f b = some key) : a = b := by
  induction items with
  | nil => simp at ha
  | cons first rest ih =>
      have hother : ∀ c ∈ rest, f c = some key → f first ≠ some key := by
        intro c hc hckey hfirst
        rw [List.filterMap_cons_some hfirst, List.nodup_cons] at h
        exact h.1 (List.mem_filterMap.2 ⟨c, hc, hckey⟩)
      rcases List.mem_cons.1 ha with rfl | harest
      · rcases List.mem_cons.1 hb with rfl | hbrest
        · rfl
        · exact absurd hakey (hother b hbrest hbkey)
      · rcases List.mem_cons.1 hb with rfl | hbrest
        · exact absurd hbkey (hother a harest hakey)
        · refine ih (h.sublist ?_) harest hbrest
          exact (List.sublist_cons_self first rest).filterMap f

/-- Where keys are distinct, an item is what is found by its key. -/
theorem find?_key_of_mem {α : Type} {f : α → Option String} {items : List α}
    (h : (items.filterMap f).Nodup) {a : α} (ha : a ∈ items) {key : String} (hkey : f a = some key) :
    (items.find? fun b => f b == some key) = some a := by
  have hstored : (items.find? fun b => f b == some key).isSome := by
    rw [List.find?_isSome]
    exact ⟨a, ha, by rw [hkey, beq_self_eq_true]⟩
  obtain ⟨found, hfound⟩ := Option.isSome_iff_exists.1 hstored
  have hmem : found ∈ items := List.mem_of_find?_eq_some hfound
  have hfoundKey : f found = some key := by simpa using List.find?_some hfound
  rw [hfound, eq_of_nodup_filterMap h hmem ha hfoundKey hkey]

/-- What is stored under a name is found by it. -/
theorem controller?_of_mem {s : Store} (hs : s.DistinctNames) {c : Controller}
    (hc : c ∈ s.controllers) {name : String} (hname : c.metadata.name = some name) :
    s.controller? name = some c :=
  find?_key_of_mem hs.controllers_nodup hc hname

/-- A new name keeps the names distinct. -/
theorem nodup_filterMap_concat {α β : Type} {f : α → Option β} {items : List α} {a : α}
    (hitems : (items.filterMap f).Nodup) (ha : ∀ b, f a = some b → b ∉ items.filterMap f) :
    ((items ++ [a]).filterMap f).Nodup := by
  rw [List.filterMap_append]
  cases hb : f a with
  | none => simpa [hb] using hitems
  | some b =>
      have hnew := ha b hb
      rw [List.filterMap_cons_some hb, List.filterMap_nil, List.nodup_append]
      refine ⟨hitems, by simp, ?_⟩
      rintro x hx y hy rfl
      obtain rfl := List.mem_singleton.1 hy
      exact hnew hx

/-- A controller takes the place of one with its name, or one without a name that of another. -/
theorem filterMap_name_replaceFirst (c : Controller) (controllers : List Controller) :
    ((replaceFirst c.nameOrEmpty c controllers).filterMap (·.metadata.name)).Sublist
      (controllers.filterMap (·.metadata.name)) := by
  induction controllers with
  | nil => simp [replaceFirst]
  | cons first rest ih =>
      unfold replaceFirst
      by_cases hfirst : first.metadata.name = some c.nameOrEmpty
      · rw [if_pos hfirst]
        cases hname : c.metadata.name with
        | none => simp [hname, hfirst]
        | some name => simp [hname, hfirst, Controller.nameOrEmpty]
      · rw [if_neg hfirst]
        cases hname : first.metadata.name with
        | none => simpa [hname] using ih
        | some name => simpa [hname] using ih

/-- Every answer keeps the names distinct. -/
theorem distinctNames_answer (c : Call) {s : Store} (h : s.DistinctNames) :
    (answer c s).2.DistinctNames := by
  obtain ⟨hcontrollers, hservices⟩ := h
  cases c with
  | getController name =>
      change (s.getController name).2.DistinctNames
      unfold getController
      split <;> exact ⟨hcontrollers, hservices⟩
  | createController c =>
      change (s.createController c).2.DistinctNames
      by_cases htaken : (s.controller? c.nameOrEmpty).isSome
      · rw [createController_of_taken htaken]
        exact ⟨hcontrollers, hservices⟩
      · rw [createController_of_free htaken]
        refine ⟨nodup_filterMap_concat hcontrollers ?_, hservices⟩
        intro name (hname : c.metadata.name = some name) hmem
        rw [isSome_controller?_iff, Controller.nameOrEmpty_of_name hname] at htaken
        exact htaken ((mem_controllerNames_iff s name).1 hmem)
  | updateController c =>
      change (s.updateController c).2.DistinctNames
      unfold updateController
      split
      · exact ⟨hcontrollers.sublist (filterMap_name_replaceFirst c s.controllers), hservices⟩
      · exact ⟨hcontrollers, hservices⟩
  | deleteController name =>
      change (s.deleteController name).2.DistinctNames
      unfold deleteController
      split
      · exact ⟨hcontrollers.sublist (List.filter_sublist.filterMap _), hservices⟩
      · exact ⟨hcontrollers, hservices⟩
  | listPods selector =>
      change (s.listPods selector).2.DistinctNames
      unfold listPods
      split <;> exact ⟨hcontrollers, hservices⟩
  | createService v =>
      change (s.createService v).2.DistinctNames
      by_cases htaken : (s.service? v.nameOrEmpty).isSome
      · rw [createService_of_taken htaken]
        exact ⟨hcontrollers, hservices⟩
      · rw [createService_of_free htaken]
        refine ⟨hcontrollers, nodup_filterMap_concat hservices ?_⟩
        intro name hname hmem
        rw [isSome_service?_iff, NetworkService.nameOrEmpty_of_name hname] at htaken
        exact htaken ((mem_serviceNames_iff s name).1 hmem)
  | deleteService name => exact ⟨hcontrollers, hservices.sublist (List.filter_sublist.filterMap _)⟩
  | listControllers => exact ⟨hcontrollers, hservices⟩
  | listServices selector => exact ⟨hcontrollers, hservices⟩
  | health => exact ⟨hcontrollers, hservices⟩

/-- Calls keep names distinct. -/
theorem distinctNames_handle (c : Call) {s : Store} (h : s.DistinctNames) :
    (handle c s).2.DistinctNames := by
  rcases handle_cases s c with ⟨e, hfailed⟩ | hanswer
  · rw [hfailed]
    exact h
  · rw [hanswer]
    exact distinctNames_answer c h

/-- Whole runs keep names distinct. -/
theorem distinctNames_run (p : Program α) {s : Store} (h : s.DistinctNames) :
    (p.run handle s).2.DistinctNames :=
  run_invariant (fun c _ => distinctNames_handle c) p h

end Backend.Store

end Stevedore
