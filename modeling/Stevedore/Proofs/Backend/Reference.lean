import Stevedore.Proofs.Backend.Faults
import Mathlib.Data.Finmap
/-!
# The store as finite maps

The store in memory searches plain lists by optional names. Seen from outside it is something simpler:
two finite maps from names to objects, each with the order in which its names came, next to the pods and
a count of how often they were listed. As long as all objects have names, and no two of a kind the same,
no sequence of calls can tell the one from the other.

Main definitions:

- `Table`: a finite map from names to objects that remembers the order of its names.
- `Reference`: two tables and a list of pods, with `Reference.handle`.
- `Reference.Represents`: a reference stands for a store.
- `serve`: the answers of a backend to a sequence of calls.

Main results:

- Theorem `Reference.Represents.step`: a call is answered alike, and what was represented still is.
- Theorem `serve_of_simulation`: so it is for every sequence of calls.
- Theorem `answers_eq_reference`: a journal answers as the reference does, and what a call that fails
  changes.
-/

namespace Stevedore

/-- In a map with ascending keys a value is found under a key exactly if the two are an entry. -/
theorem Labels.get?_eq_some_iff (l : Labels) (key value : String) :
    l.get? key = some value ↔ (key, value) ∈ l.entries := by
  rw [Labels.get?, List.lookup_eq_some_iff]
  constructor
  · rintro ⟨before, after, hsplit, -⟩
    rw [hsplit]
    exact List.mem_append_right _ List.mem_cons_self
  · intro hmem
    obtain ⟨before, after, hsplit⟩ := List.append_of_mem hmem
    refine ⟨before, after, hsplit, fun e he => ?_⟩
    have hascending := l.ascending
    rw [hsplit, Ascending, List.pairwise_append] at hascending
    have hlt : e.1 < key := hascending.2.2 e he _ List.mem_cons_self
    rw [bne_iff_ne]
    rintro rfl
    exact String.lt_irrefl _ hlt

namespace Backend

open Cluster

/-! ## Tables -/

/-- A finite map from names to objects, and its names in the order in which they came. -/
structure Table (α : Type) where
  entries : Finmap fun _ : String => α := ∅
  names : List String := []

namespace Table

/-- The objects in the order of their names. -/
def values (t : Table α) : List α := t.names.filterMap fun name => t.entries.lookup name

/-- The table with an object under a new name. -/
def add (t : Table α) (name : String) (a : α) : Table α :=
  ⟨t.entries.insert name a, t.names ++ [name]⟩

/-- The table with another object under a name that it has. -/
def put (t : Table α) (name : String) (a : α) : Table α :=
  { t with entries := t.entries.insert name a }

/-- The table without a name. -/
def remove (t : Table α) (name : String) : Table α :=
  ⟨t.entries.erase name, t.names.filter (· != name)⟩

/-- The objects of a list under their names. -/
def ofList (nameOf : α → String) (items : List α) : Table α :=
  items.foldl (fun t a => t.add (nameOf a) a) {}

/-! ### What is found under a name -/

section Lookup

variable (t : Table α) (name other : String) (a : α)

/-- Another object under a name is found there, and nowhere else. -/
theorem lookup_put : (t.put name a).entries.lookup other =
    if other = name then some a else t.entries.lookup other := by
  by_cases h : other = name
  · rw [if_pos h, h]
    exact Finmap.lookup_insert t.entries
  · rw [if_neg h]
    exact Finmap.lookup_insert_of_ne t.entries h

/-- An object that is added is found under its name, and nowhere else. -/
theorem lookup_add : (t.add name a).entries.lookup other =
    if other = name then some a else t.entries.lookup other :=
  t.lookup_put name other a

/-- A name that is removed has no object, and the others keep theirs. -/
theorem lookup_remove : (t.remove name).entries.lookup other =
    if other = name then none else t.entries.lookup other := by
  by_cases h : other = name
  · rw [if_pos h, h]
    exact Finmap.lookup_erase name t.entries
  · rw [if_neg h]
    exact Finmap.lookup_erase_ne h

end Lookup

/-! ### Tables of lists -/

/-- A table holds the objects of a list, each of which has a name of its own. -/
structure Holds (t : Table α) (key : α → Option String) (items : List α) : Prop where
  names : items.map key = t.names.map some
  nodup : t.names.Nodup
  lookup : ∀ name, t.entries.lookup name = items.find? fun a => key a == some name

namespace Holds

variable {t : Table α} {key : α → Option String} {items : List α} {name : String} {a : α}

/-- A table has a name exactly if it is that of an object of the list. -/
theorem mem_entries_iff (h : t.Holds key items) :
    name ∈ t.entries ↔ (items.find? fun a => key a == some name).isSome := by
  rw [← Finmap.lookup_isSome, h.lookup]

/-- A name is in the list of a table exactly if it is that of an object of the list. -/
theorem mem_names_iff (h : t.Holds key items) :
    name ∈ t.names ↔ (items.find? fun a => key a == some name).isSome := by
  have hmem : name ∈ t.names ↔ some name ∈ items.map key := by
    rw [h.names]
    simp
  rw [hmem, List.find?_isSome, List.mem_map]
  simp only [beq_iff_eq]

/-- The names of the objects are those of the table. -/
theorem filterMap_key (h : t.Holds key items) : items.filterMap key = t.names := by
  have hkeys := congrArg (List.filterMap id) h.names
  simpa [List.filterMap_map] using hkeys

/-- The values of a table are the objects that it holds, in their order. -/
theorem values_eq (h : t.Holds key items) : t.values = items := by
  have hnodup : (items.filterMap key).Nodup := by
    rw [h.filterMap_key]
    exact h.nodup
  have hfound : ∀ a ∈ items, (key a).bind (fun name => t.entries.lookup name) = some a := by
    intro a ha
    have hkey : key a ∈ items.map key := List.mem_map_of_mem ha
    rw [h.names, List.mem_map] at hkey
    obtain ⟨name, -, hname⟩ := hkey
    rw [← hname, Option.bind_some, h.lookup]
    exact Store.find?_key_of_mem hnodup ha hname.symm
  calc t.values
      = (t.names.map some).filterMap (fun o => o.bind fun name => t.entries.lookup name) := by
        rw [List.filterMap_map]
        rfl
    _ = items.filterMap (fun a => (key a).bind fun name => t.entries.lookup name) := by
        rw [← h.names, List.filterMap_map]
        rfl
    _ = items.filterMap some := List.filterMap_congr hfound
    _ = items := List.filterMap_some

/-! ## What the operations keep -/

/-- The empty table holds the empty list. -/
theorem empty (key : α → Option String) : ({} : Table α).Holds key [] where
  names := rfl
  nodup := List.nodup_nil
  lookup := fun _ => rfl

/-- An object with a new name is held once it is added. -/
theorem add (h : t.Holds key items) (hkey : key a = some name)
    (hfresh : ¬ (items.find? fun b => key b == some name).isSome) :
    (t.add name a).Holds key (items ++ [a]) where
  names := by
    rw [List.map_append, h.names, List.map_singleton, hkey, ← List.map_singleton, ← List.map_append]
    rfl
  nodup := by
    have hnew : name ∉ t.names := mt h.mem_names_iff.1 hfresh
    exact List.nodup_append.2 ⟨h.nodup, List.nodup_singleton name, by
      rintro x hx y hy rfl
      exact hnew (List.mem_singleton.1 hy ▸ hx)⟩
  lookup := by
    intro other
    rw [lookup_add, List.find?_append]
    by_cases hother : other = name
    · rw [if_pos hother, hother, Option.not_isSome_iff_eq_none.1 hfresh]
      simp [hkey]
    · have hne : (key a == some other) = false := by
        rw [hkey]
        simpa using Ne.symm hother
      rw [if_neg hother, List.find?_cons, hne, List.find?_nil, Option.or_none, h.lookup]

/-- Objects with new names of their own are held once they are added. -/
theorem foldl_add {nameOf : α → String} {more : List α} (h : t.Holds key items)
    (hkey : ∀ a ∈ more, key a = some (nameOf a))
    (hnodup : ((items ++ more).filterMap key).Nodup) :
    (more.foldl (fun t a => t.add (nameOf a) a) t).Holds key (items ++ more) := by
  induction more generalizing t items with
  | nil => simpa using h
  | cons a rest ih =>
      rw [List.forall_mem_cons] at hkey
      have hsplit : items ++ a :: rest = items ++ [a] ++ rest := by simp
      have hfresh : ¬ (items.find? fun b => key b == some (nameOf a)).isSome := by
        intro hstored
        have hname := h.mem_names_iff.2 hstored
        rw [List.filterMap_append, List.filterMap_cons_some hkey.1, h.filterMap_key,
          List.nodup_append] at hnodup
        exact hnodup.2.2 _ hname _ List.mem_cons_self rfl
      rw [hsplit] at hnodup ⊢
      exact ih (h.add hkey.1 hfresh) hkey.2 hnodup

/-- A table made of objects with distinct names holds them. -/
theorem ofList {nameOf : α → String} (hkey : ∀ a ∈ items, key a = some (nameOf a))
    (hnodup : (items.filterMap key).Nodup) : (Table.ofList nameOf items).Holds key items :=
  (empty key).foldl_add hkey hnodup

/-- Once a name is removed, the objects of other names are held. -/
theorem remove (h : t.Holds key items) :
    (t.remove name).Holds key (items.filter fun a => key a != some name) where
  names := by
    have hfilter : (items.filter fun a => key a != some name).map key =
        (items.map key).filter (· != some name) := by
      rw [List.filter_map]
      rfl
    rw [hfilter, h.names, List.filter_map]
    rfl
  nodup := h.nodup.filter _
  lookup := by
    intro other
    rw [lookup_remove, List.find?_filter]
    by_cases hother : other = name
    · rw [if_pos hother, hother, eq_comm, List.find?_eq_none]
      intro a _ ha
      simp at ha
    · rw [if_neg hother, h.lookup]
      congr 1
      funext a
      by_cases ha : key a = some other
      · simp [ha, hother]
      · simp [ha]

/-- Another controller of the same name takes the place of the one that is held. -/
theorem put {t : Table Controller} {controllers : List Controller} {c : Controller}
    (h : t.Holds (·.metadata.name) controllers) (hname : c.metadata.name = some name)
    (hstored : (controllers.find? fun b => b.metadata.name == some name).isSome) :
    (t.put name c).Holds (·.metadata.name) (Store.replaceFirst name c controllers) where
  names := (Store.map_name_replaceFirst hname controllers).trans h.names
  nodup := h.nodup
  lookup := by
    intro other
    rw [lookup_put]
    by_cases hother : other = name
    · rw [if_pos hother, hother, Store.find?_replaceFirst hname hstored]
    · rw [if_neg hother, h.lookup, Store.find?_replaceFirst_of_ne hname hother]

end Holds

end Table

/-! ## The reference -/

/-- Two tables and a list of pods. -/
structure Reference where
  controllers : Table Controller := {}
  services : Table NetworkService := {}
  pods : List Pod := []
  /-- How many listings show the pods; absent all of them do. -/
  lifetime : Option Nat := none
  /-- How often the pods were listed. -/
  listings : Nat := 0
  healthy : Bool := true

namespace Reference

/-- The pods that the next listing shows. -/
def visiblePods (r : Reference) : List Pod :=
  match r.lifetime with
  | none => r.pods
  | some n => if r.listings < n then r.pods else []

/-- All labels that a selector asks for are entries of a map. -/
def meets (labels : Option Labels) (selector : Selector) : Bool :=
  selector.terms.entries.all fun e => e ∈ (labels.getD .empty).entries

/-- There is no controller of a name. -/
def missing (name : String) : BackendError :=
  .notFound ("replicationcontrollers \"" ++ name ++ "\" not found")

/-- The controller under a name. -/
def getController (r : Reference) (name : String) : Except BackendError Controller × Reference :=
  match r.controllers.entries.lookup name with
  | some c => (.ok c, r)
  | none => (.error (missing name), r)

/-- Adds a controller under its name, unless there is one. Its observed replicas become 0. -/
def createController (r : Reference) (c : Controller) :
    Except BackendError Controller × Reference :=
  if c.nameOrEmpty ∈ r.controllers.entries then
    (.error (.alreadyExists ("replicationcontrollers \"" ++ c.nameOrEmpty ++ "\" already exists")), r)
  else
    let added : Controller := { c with status := some { c.status.getD {} with replicas := 0 } }
    (.ok added, { r with controllers := r.controllers.add c.nameOrEmpty added })

/-- Puts a controller in the place of the one of its name. -/
def updateController (r : Reference) (c : Controller) :
    Except BackendError Controller × Reference :=
  if c.nameOrEmpty ∈ r.controllers.entries then
    (.ok c, { r with controllers := r.controllers.put c.nameOrEmpty c })
  else (.error (missing c.nameOrEmpty), r)

/-- Removes the controller of a name. -/
def deleteController (r : Reference) (name : String) : Except BackendError Unit × Reference :=
  if name ∈ r.controllers.entries then
    (.ok (), { r with controllers := r.controllers.remove name })
  else (.error (missing name), r)

/-- The pods that this listing shows, by their labels. -/
def listPods (r : Reference) (selector : Selector) : Except BackendError (List Pod) × Reference :=
  (.ok (r.visiblePods.filter fun p => meets p.metadata.labels selector),
    { r with listings := r.listings + 1 })

/-- Adds a network service under its name, unless there is one. -/
def createService (r : Reference) (v : NetworkService) :
    Except BackendError NetworkService × Reference :=
  if v.nameOrEmpty ∈ r.services.entries then
    (.error (.alreadyExists ("services \"" ++ v.nameOrEmpty ++ "\" already exists")), r)
  else (.ok v, { r with services := r.services.add v.nameOrEmpty v })

/-- The network services in their order, by their labels. -/
def listServices (r : Reference) (selector : Selector) :
    Except BackendError (List NetworkService) × Reference :=
  (.ok (r.services.values.filter fun v => meets v.metadata.labels selector), r)

/-- Removes the network service of a name, if there is one. -/
def deleteService (r : Reference) (name : String) : Except BackendError Unit × Reference :=
  (.ok (), { r with services := r.services.remove name })

/-- Answers a call. -/
def handle : Handler Reference
  | .listControllers, r => (.ok r.controllers.values, r)
  | .getController name, r => r.getController name
  | .createController c, r => r.createController c
  | .updateController c, r => r.updateController c
  | .deleteController name, r => r.deleteController name
  | .listPods selector, r => r.listPods selector
  | .createService v, r => r.createService v
  | .listServices selector, r => r.listServices selector
  | .deleteService name, r => r.deleteService name
  | .health, r => (r.healthy, r)

/-- The reference with the objects of a store, whose pods were not listed so far. -/
def ofStore (s : Store) : Reference where
  controllers := .ofList Controller.nameOrEmpty s.controllers
  services := .ofList NetworkService.nameOrEmpty s.services
  pods := s.pods
  lifetime := s.listingsLeft
  healthy := s.healthy

/-- What a selector selects are the maps that have its labels. -/
theorem meets_eq_selects (labels : Option Labels) (selector : Selector) :
    meets labels selector = selector.selects labels := by
  unfold meets Selector.selects
  congr 1
  funext e
  cases labels with
  | none => simp [Labels.empty]
  | some l =>
      change decide (e ∈ l.entries) = (l.get? e.1 == some e.2)
      rw [Bool.eq_iff_iff, decide_eq_true_iff, beq_iff_eq]
      exact (l.get?_eq_some_iff e.1 e.2).symm

/-- A call that fails changes nothing. -/
theorem eq_of_failure {c : Call} {r : Reference} {e : BackendError}
    (h : c.failure? (handle c r).1 = some e) : (handle c r).2 = r := by
  cases c with
  | getController name =>
      change (r.getController name).2 = r
      unfold getController
      split <;> rfl
  | createController c =>
      change errorOf? (r.createController c).1 = some e at h
      change (r.createController c).2 = r
      unfold createController at h ⊢
      split at h
      · next htaken => rw [if_pos htaken]
      · contradiction
  | updateController c =>
      change errorOf? (r.updateController c).1 = some e at h
      change (r.updateController c).2 = r
      unfold updateController at h ⊢
      split at h
      · contradiction
      · next habsent => rw [if_neg habsent]
  | deleteController name =>
      change errorOf? (r.deleteController name).1 = some e at h
      change (r.deleteController name).2 = r
      unfold deleteController at h ⊢
      split at h
      · contradiction
      · next habsent => rw [if_neg habsent]
  | createService v =>
      change errorOf? (r.createService v).1 = some e at h
      change (r.createService v).2 = r
      unfold createService at h ⊢
      split at h
      · next htaken => rw [if_pos htaken]
      · contradiction
  | _ => contradiction

/-! ## One call -/

/-- A reference stands for a store. Once the listings that show the pods are used up, the pods in the
store do not matter. -/
structure Represents (r : Reference) (s : Store) : Prop where
  controllers : r.controllers.Holds (·.metadata.name) s.controllers
  services : r.services.Holds (·.metadata.name) s.services
  listingsLeft : s.listingsLeft = r.lifetime.map (· - r.listings)
  pods : s.pods = r.pods ∨ s.listingsLeft = some 0
  healthy : s.healthy = r.healthy

end Reference

/-- An object that the call stores has a name. -/
def Call.Named : Call → Prop
  | .createController c => c.metadata.name ≠ none
  | .updateController c => c.metadata.name ≠ none
  | .createService v => v.metadata.name ≠ none
  | _ => True

namespace Reference

namespace Represents

variable {r : Reference} {s : Store}

/-- A lookup is answered alike. -/
theorem getController (h : r.Represents s) (name : String) :
    (r.getController name).1 = (s.getController name).1 ∧
      (r.getController name).2.Represents (s.getController name).2 := by
  have hfound : r.controllers.entries.lookup name = s.controller? name := h.controllers.lookup name
  unfold Reference.getController Store.getController
  rw [hfound, Store.controllerNotFound_eq]
  cases s.controller? name with
  | some c => exact ⟨rfl, h⟩
  | none => exact ⟨rfl, h⟩

/-- A creation is answered alike, if the controller has a name. -/
theorem createController (h : r.Represents s) {c : Controller} (hc : c.metadata.name ≠ none) :
    (r.createController c).1 = (s.createController c).1 ∧
      (r.createController c).2.Represents (s.createController c).2 := by
  have hname := Controller.name_of_named hc
  have hmem : c.nameOrEmpty ∈ r.controllers.entries ↔ (s.controller? c.nameOrEmpty).isSome :=
    h.controllers.mem_entries_iff
  unfold Reference.createController Store.createController
  simp only [hmem, Store.controllerExists_eq]
  by_cases htaken : (s.controller? c.nameOrEmpty).isSome
  · rw [if_pos htaken, if_pos htaken]
    exact ⟨rfl, h⟩
  · rw [if_neg htaken, if_neg htaken]
    exact ⟨rfl, { h with controllers := h.controllers.add hname htaken }⟩

/-- An update is answered alike, if the controller has a name. -/
theorem updateController (h : r.Represents s) {c : Controller} (hc : c.metadata.name ≠ none) :
    (r.updateController c).1 = (s.updateController c).1 ∧
      (r.updateController c).2.Represents (s.updateController c).2 := by
  have hname := Controller.name_of_named hc
  have hmem : c.nameOrEmpty ∈ r.controllers.entries ↔ (s.controller? c.nameOrEmpty).isSome :=
    h.controllers.mem_entries_iff
  unfold Reference.updateController Store.updateController
  simp only [hmem, missing, Store.controllerNotFound_eq]
  by_cases hstored : (s.controller? c.nameOrEmpty).isSome
  · rw [if_pos hstored, if_pos hstored]
    exact ⟨rfl, { h with controllers := h.controllers.put hname hstored }⟩
  · rw [if_neg hstored, if_neg hstored]
    exact ⟨rfl, h⟩

/-- A deletion is answered alike. -/
theorem deleteController (h : r.Represents s) (name : String) :
    (r.deleteController name).1 = (s.deleteController name).1 ∧
      (r.deleteController name).2.Represents (s.deleteController name).2 := by
  have hmem : name ∈ r.controllers.entries ↔ (s.controller? name).isSome :=
    h.controllers.mem_entries_iff
  unfold Reference.deleteController Store.deleteController
  simp only [hmem, missing, Store.controllerNotFound_eq]
  by_cases hstored : (s.controller? name).isSome
  · rw [if_pos hstored, if_pos hstored]
    exact ⟨rfl, { h with controllers := h.controllers.remove }⟩
  · rw [if_neg hstored, if_neg hstored]
    exact ⟨rfl, h⟩

/-- The countdown of the store and the count of the reference agree on when the pods are gone. -/
theorem visiblePods_eq (h : r.Represents s) :
    r.visiblePods = if s.listingsLeft = some 0 then [] else s.pods := by
  unfold visiblePods
  cases hlifetime : r.lifetime with
  | none =>
      have hleft : s.listingsLeft = none := by
        rw [h.listingsLeft, hlifetime, Option.map_none]
      have hne : s.listingsLeft ≠ some 0 := by simp [hleft]
      rw [if_neg hne, h.pods.resolve_right hne]
  | some n =>
      have hleft : s.listingsLeft = some (n - r.listings) := by
        rw [h.listingsLeft, hlifetime, Option.map_some]
      by_cases hshown : r.listings < n
      · have hne : s.listingsLeft ≠ some 0 := by
          rw [hleft, Ne, Option.some.injEq]
          omega
        simp only [if_pos hshown, if_neg hne, h.pods.resolve_right hne]
      · have hgone : s.listingsLeft = some 0 := by
          rw [hleft, Option.some.injEq]
          omega
        simp only [if_neg hshown, if_pos hgone]

/-- A listing of pods is answered alike, and both count it. -/
theorem listPods (h : r.Represents s) (selector : Selector) :
    (r.listPods selector).1 = (s.listPods selector).1 ∧
      (r.listPods selector).2.Represents (s.listPods selector).2 := by
  have hvisible := h.visiblePods_eq
  have hnext : r.lifetime.map (· - (r.listings + 1)) = s.listingsLeft.map (· - 1) := by
    rw [h.listingsLeft, Option.map_map]
    rfl
  unfold Reference.listPods Store.listPods
  simp only [hvisible, meets_eq_selects]
  cases hleft : s.listingsLeft with
  | none =>
      rw [hleft] at hnext
      exact ⟨rfl, { h with listingsLeft := hleft.trans hnext.symm }⟩
  | some left =>
      rw [hleft] at hnext
      cases left with
      | zero => exact ⟨rfl, { h with listingsLeft := hnext.symm, pods := .inr rfl }⟩
      | succ n =>
          have hpods : s.pods = r.pods := h.pods.resolve_right (by simp [hleft])
          exact ⟨rfl, { h with listingsLeft := hnext.symm, pods := .inl hpods }⟩

/-- A creation is answered alike, if the network service has a name. -/
theorem createService (h : r.Represents s) {v : NetworkService} (hv : v.metadata.name ≠ none) :
    (r.createService v).1 = (s.createService v).1 ∧
      (r.createService v).2.Represents (s.createService v).2 := by
  have hname := NetworkService.name_of_named hv
  have hmem : v.nameOrEmpty ∈ r.services.entries ↔ (s.service? v.nameOrEmpty).isSome :=
    h.services.mem_entries_iff
  unfold Reference.createService Store.createService
  simp only [hmem, Store.serviceExists_eq]
  by_cases htaken : (s.service? v.nameOrEmpty).isSome
  · rw [if_pos htaken, if_pos htaken]
    exact ⟨rfl, h⟩
  · rw [if_neg htaken, if_neg htaken]
    exact ⟨rfl, { h with services := h.services.add hname htaken }⟩

/-- A call is answered alike, and what was represented still is. -/
theorem step (h : r.Represents s) {c : Call} (hc : c.Named) :
    (Reference.handle c r).1 = (Store.answer c s).1 ∧
      (Reference.handle c r).2.Represents (Store.answer c s).2 := by
  cases c with
  | listControllers => exact ⟨congrArg Except.ok h.controllers.values_eq, h⟩
  | getController name => exact h.getController name
  | createController c => exact h.createController hc
  | updateController c => exact h.updateController hc
  | deleteController name => exact h.deleteController name
  | listPods selector => exact h.listPods selector
  | createService v => exact h.createService hc
  | listServices selector =>
      refine ⟨congrArg Except.ok ?_, h⟩
      simp only [h.services.values_eq, meets_eq_selects]
  | deleteService name => exact ⟨rfl, { h with services := h.services.remove }⟩
  | health => exact ⟨h.healthy.symm, h⟩

/-- What a store holds at the start is represented by the tables of its objects. -/
theorem ofStore (hcontrollers : ∀ c ∈ s.controllers, c.metadata.name ≠ none)
    (hservices : ∀ v ∈ s.services, v.metadata.name ≠ none) (hdistinct : s.DistinctNames) :
    (Reference.ofStore s).Represents s where
  controllers := .ofList (fun c hc => c.name_of_named (hcontrollers c hc))
    hdistinct.controllers_nodup
  services := .ofList (fun v hv => v.name_of_named (hservices v hv)) hdistinct.services_nodup
  listingsLeft := Option.map_id'.symm
  pods := .inl rfl
  healthy := rfl

end Represents

end Reference

/-! ## Sequences of calls -/

/-- Makes calls one after the other: their answers, and what they leave. -/
def serve (handler : Handler σ) : List Call → σ → List Exchange × σ
  | [], s => ([], s)
  | c :: rest, s =>
    let (exchanges, last) := serve handler rest (handler c s).2
    (⟨c, (handler c s).1⟩ :: exchanges, last)

/-- Backends that answer single calls alike answer every sequence of calls alike. -/
theorem serve_of_simulation {first : Handler σ} {second : Handler τ} {R : σ → τ → Prop}
    {calls : List Call}
    (hstep : ∀ c ∈ calls, ∀ s t, R s t →
      (first c s).1 = (second c t).1 ∧ R (first c s).2 (second c t).2)
    {s : σ} {t : τ} (h : R s t) :
    (serve first calls s).1 = (serve second calls t).1 ∧
      R (serve first calls s).2 (serve second calls t).2 := by
  induction calls generalizing s t with
  | nil => exact ⟨rfl, h⟩
  | cons c rest ih =>
      rw [List.forall_mem_cons] at hstep
      have hfirst := hstep.1 s t h
      have hrest := ih hstep.2 hfirst.2
      refine ⟨?_, hrest.2⟩
      change (⟨c, (first c s).1⟩ :: (serve first rest (first c s).2).1 : List Exchange) =
        ⟨c, (second c t).1⟩ :: (serve second rest (second c t).2).1
      rw [hfirst.1, hrest.1]

/-- What a call that fails leaves of a journal: only that the call is noted. -/
theorem Journal.handle_of_failure {c : Call} {j : Journal} {e : BackendError}
    (h : c.failure? (Journal.handle c j).1 = some e) :
    (Journal.handle c j).2 = ⟨j.store, j.calls ++ [j.store.sighting c]⟩ := by
  have hkept : (Journal.handle c j).2.store = j.store := fallible_journal.eq_of_failure h
  exact congrArg (Journal.mk · (j.calls ++ [j.store.sighting c])) hkept

/-- A call that is made to fail is noted, and that is all. -/
theorem Journal.handle_of_injected {c : Call} {j : Journal} {e : BackendError}
    (h : c.operation?.bind j.store.errors = some e) :
    Journal.handle c j = (c.failed e, ⟨j.store, j.calls ++ [j.store.sighting c]⟩) := by
  unfold Journal.handle Store.handle
  rw [h]

/-- To every sequence of calls a journal gives the answers of the reference, as long as no failures are
asked for and all objects have names. A call that fails, for whatever reason and on whatever store,
changes nothing but the list of calls. -/
theorem answers_eq_reference {j : Journal} (herrors : ∀ op, j.store.errors op = none)
    (hcontrollers : ∀ c ∈ j.store.controllers, c.metadata.name ≠ none)
    (hservices : ∀ v ∈ j.store.services, v.metadata.name ≠ none)
    (hdistinct : j.store.DistinctNames) {calls : List Call} (hcalls : ∀ c ∈ calls, c.Named) :
    let answered := serve Journal.handle calls j
    let expected := serve Reference.handle calls (Reference.ofStore j.store)
    answered.1 = expected.1 ∧
      answered.2.store.controllers = expected.2.controllers.values ∧
      answered.2.store.services = expected.2.services.values ∧
      (∀ c r e, c.failure? (Reference.handle c r).1 = some e → (Reference.handle c r).2 = r) ∧
      (∀ c k e, c.failure? (Journal.handle c k).1 = some e →
        (Journal.handle c k).2 = ⟨k.store, k.calls ++ [k.store.sighting c]⟩) ∧
      ∀ c k e, c.operation?.bind k.store.errors = some e →
        Journal.handle c k = (c.failed e, ⟨k.store, k.calls ++ [k.store.sighting c]⟩) := by
  have hstep : ∀ c ∈ calls, ∀ (k : Journal) (r : Reference),
      r.Represents k.store ∧ (∀ op, k.store.errors op = none) →
        (Journal.handle c k).1 = (Reference.handle c r).1 ∧
          (Reference.handle c r).2.Represents (Journal.handle c k).2.store ∧
          ∀ op, (Journal.handle c k).2.store.errors op = none := by
    rintro c hc k r ⟨hrepresents, hunharmed⟩
    have hanswer : Store.handle c k.store = Store.answer c k.store :=
      Store.handle_of_errors_eq_none hunharmed c
    have hreply : (Journal.handle c k).1 = (Store.answer c k.store).1 := congrArg Prod.fst hanswer
    have hstate : (Journal.handle c k).2.store = (Store.answer c k.store).2 :=
      congrArg Prod.snd hanswer
    have hnext := hrepresents.step (hcalls c hc)
    rw [hreply, hstate, Store.errors_answer]
    exact ⟨hnext.1.symm, hnext.2, hunharmed⟩
  obtain ⟨hanswers, hlast, -⟩ :=
    serve_of_simulation hstep ⟨.ofStore hcontrollers hservices hdistinct, herrors⟩
  exact ⟨hanswers, hlast.controllers.values_eq.symm, hlast.services.values_eq.symm,
    fun _ _ _ => Reference.eq_of_failure, fun _ _ _ => Journal.handle_of_failure,
    fun _ _ _ => Journal.handle_of_injected⟩

/-- A journal over two controllers and a pod that is gone after one listing. -/
def blogOnce : Journal where
  store := {
    controllers := [{ metadata := { name := some "web" } }, { metadata := { name := some "db" } }]
    services := [{ metadata := { name := some "db" } }]
    pods := [{ metadata := { labels := some { entries := [("app", "web")] } } }]
    listingsLeft := some 1 }

/-- Nine calls on a journal with a pod that is gone after one listing: every answer is that of the
reference. -/
theorem answers_eq_reference_blogOnce :
    let calls : List Call := [.createController { metadata := { name := some "web" } },
      .updateController { metadata := { name := some "db" }, spec := some { replicas := some 2 } },
      .listPods (.label "app" "web"), .listPods (.label "app" "web"), .deleteController "web",
      .deleteController "web", .createService { metadata := { name := some "www" } },
      .deleteService "db", .listControllers]
    (∀ op, blogOnce.store.errors op = none) ∧
      (∀ c ∈ blogOnce.store.controllers, c.metadata.name ≠ none) ∧
      (∀ v ∈ blogOnce.store.services, v.metadata.name ≠ none) ∧
      blogOnce.store.DistinctNames ∧ (∀ c ∈ calls, c.Named) ∧
      (serve Journal.handle calls blogOnce).1 =
        (serve Reference.handle calls (Reference.ofStore blogOnce.store)).1 ∧
      (serve Journal.handle calls blogOnce).2.store.controllers =
        [{ metadata := { name := some "db" }, spec := some { replicas := some 2 } }] := by
  intro calls
  have hcontrollers : ∀ c ∈ blogOnce.store.controllers, c.metadata.name ≠ none := by decide
  have hservices : ∀ v ∈ blogOnce.store.services, v.metadata.name ≠ none := by decide
  have hdistinct : blogOnce.store.DistinctNames := ⟨by decide, by decide⟩
  have hcalls : ∀ c ∈ calls, c.Named := by simp [calls, Call.Named]
  obtain ⟨hanswers, -⟩ :=
    answers_eq_reference (fun _ => rfl) hcontrollers hservices hdistinct hcalls
  exact ⟨fun _ => rfl, hcontrollers, hservices, hdistinct, hcalls, hanswers, by decide⟩

end Backend

end Stevedore
