import Stevedore.Adapter
import Stevedore.Proofs.Backend.Names
import Mathlib.Data.List.Forall2
/-!
# Listing and getting

All deployments are listed from one look at the stored controllers, while a single one is looked up by
its name. Where every controller has a name of its own both ways lead to the same controllers, and as
long as no pods disappear neither of them changes anything. So the list is made of what getting each
deployment would give, and it fails just as the first of them would.

Main results:

- Theorem `run_forEach_of_unchanged`: a loop over programs that change nothing collects their results.
- Theorem `run_list_eq_mapM`: the list is what getting each deployment in turn would give.
- Theorem `list_agrees_with_get`: when the deployments are listed, what the list holds, and how listing
  them fails.
-/

namespace Stevedore

open Backend Cluster

namespace Program

/-! ## Loops that change nothing -/

section Loops

variable {handler : Handler σ} {body : α → Program β} {s : σ} {items : List α}

/-- A loop over programs that change nothing collects their results, up to the first that fails. -/
theorem run_forEach_of_unchanged (h : ∀ a ∈ items, ((body a).run handler s).2 = s) :
    (forEach items body).run handler s =
      (items.mapM fun a => ((body a).run handler s).1, s) := by
  induction items with
  | nil => rfl
  | cons a rest ih =>
      rw [List.forall_mem_cons] at h
      rw [forEach, run_bind, List.mapM_cons]
      have hfirst : (body a).run handler s = (((body a).run handler s).1, s) := by
        rw [Prod.ext_iff]
        exact ⟨rfl, h.1⟩
      rw [hfirst]
      cases ((body a).run handler s).1 with
      | error failure => rfl
      | ok b =>
          simp only [run_bind, ih h.2]
          cases rest.mapM fun a => ((body a).run handler s).1 <;> rfl

end Loops

/-! ## Collected results -/

section Results

variable {result : α → Except ε β}

/-- Results are collected if every item has one, and then in the order of the items. -/
theorem mapM_eq_ok_iff (items : List α) (collected : List β) :
    items.mapM result = .ok collected ↔
      List.Forall₂ (fun a b => result a = .ok b) items collected := by
  induction items generalizing collected with
  | nil =>
      rw [List.mapM_nil, List.forall₂_nil_left_iff]
      exact ⟨fun h => (Except.ok.inj h).symm, fun h => congrArg Except.ok h.symm⟩
  | cons a rest ih =>
      rw [List.mapM_cons, List.forall₂_cons_left_iff]
      cases hfirst : result a with
      | error e =>
          constructor
          · intro h
            contradiction
          · rintro ⟨b, more, hb, -⟩
            contradiction
      | ok b =>
          simp only [← ih, Except.ok.injEq]
          change (rest.mapM result >>= fun more => pure (b :: more)) = .ok collected ↔ _
          cases rest.mapM result with
          | error e =>
              constructor
              · intro h
                contradiction
              · rintro ⟨_, more, -, hmore, -⟩
                contradiction
          | ok found =>
              constructor
              · intro h
                exact ⟨b, found, rfl, rfl, (Except.ok.inj h).symm⟩
              · rintro ⟨_, more, rfl, hmore, rfl⟩
                rw [Except.ok.inj hmore]
                rfl

/-- Items of equal results are collected alike. -/
theorem mapM_congr_left {other : α → Except ε β} {items : List α}
    (h : ∀ a ∈ items, result a = other a) : items.mapM result = items.mapM other := by
  induction items with
  | nil => rfl
  | cons a rest ih =>
      rw [List.forall_mem_cons] at h
      rw [List.mapM_cons, List.mapM_cons, h.1, ih h.2]

/-- Results are collected exactly if there is one for every item. -/
theorem exists_mapM_eq_ok_iff (items : List α) :
    (∃ collected, items.mapM result = .ok collected) ↔ ∀ a ∈ items, ∃ b, result a = .ok b := by
  constructor
  · rintro ⟨collected, h⟩ a ha
    rw [mapM_eq_ok_iff] at h
    induction h with
    | nil => contradiction
    | @cons first b rest more hb _ ih =>
        rcases List.mem_cons.1 ha with rfl | ha
        · exact ⟨b, hb⟩
        · exact ih ha
  · intro h
    induction items with
    | nil => exact ⟨[], rfl⟩
    | cons first rest ih =>
        rw [List.forall_mem_cons] at h
        obtain ⟨b, hb⟩ := h.1
        obtain ⟨more, hmore⟩ := ih h.2
        refine ⟨b :: more, (mapM_eq_ok_iff _ _).2 ?_⟩
        exact .cons hb ((mapM_eq_ok_iff _ _).1 hmore)

/-- If an item has no result, the failure of the first such item is all there is. -/
theorem mapM_eq_error_iff (items : List α) (e : ε) :
    items.mapM result = .error e ↔
      ∃ before a after, items = before ++ a :: after ∧ (∀ b ∈ before, ∃ r, result b = .ok r) ∧
        result a = .error e := by
  induction items with
  | nil =>
      constructor
      · intro h
        contradiction
      · rintro ⟨before, a, after, hsplit, -⟩
        simp at hsplit
  | cons a rest ih =>
      rw [List.mapM_cons]
      cases hfirst : result a with
      | error e' =>
          constructor
          · intro h
            obtain rfl := Except.error.inj h
            exact ⟨[], a, rest, rfl, by simp, hfirst⟩
          · rintro ⟨before, b, after, hsplit, hbefore, hb⟩
            cases before with
            | nil =>
                obtain ⟨rfl, rfl⟩ := List.cons.inj hsplit
                rw [hfirst] at hb
                exact congrArg Except.error (Except.error.inj hb)
            | cons first before =>
                obtain ⟨rfl, -⟩ := List.cons.inj hsplit
                obtain ⟨r, hr⟩ := hbefore a List.mem_cons_self
                rw [hfirst] at hr
                contradiction
      | ok b =>
          have hrest : (rest.mapM result >>= fun more => pure (b :: more)) = .error e ↔
              rest.mapM result = .error e := by
            cases rest.mapM result with
            | error e' => exact Iff.rfl
            | ok found =>
                constructor <;> intro h <;> contradiction
          change (rest.mapM result >>= fun more => pure (b :: more)) = .error e ↔ _
          rw [hrest, ih]
          constructor
          · rintro ⟨before, c, after, rfl, hbefore, hc⟩
            refine ⟨a :: before, c, after, rfl, ?_, hc⟩
            exact List.forall_mem_cons.2 ⟨⟨b, hfirst⟩, hbefore⟩
          · rintro ⟨before, c, after, hsplit, hbefore, hc⟩
            cases before with
            | nil =>
                obtain ⟨rfl, rfl⟩ := List.cons.inj hsplit
                rw [hfirst] at hc
                contradiction
            | cons first before =>
                obtain ⟨rfl, rfl⟩ := List.cons.inj hsplit
                exact ⟨before, c, after, rfl, (List.forall_mem_cons.1 hbefore).2, hc⟩

end Results

end Program

namespace Adapter

open Program

/-! ## Programs that look at a store -/

section Looks

variable {s : Store}

/-- Looking for the record of a controller changes nothing as long as no pods disappear. -/
theorem run_recordOf_snd (hpods : s.listingsLeft = none) (c : Controller) :
    ((Lifecycle.recordOf c).run Store.handle s).2 = s := by
  have hlisting : ∀ selector, (Store.handle (.listPods selector) s).2 = s := by
    intro selector
    rcases Store.handle_cases s (.listPods selector) with ⟨e, hfailed⟩ | hanswer
    · rw [hfailed]
    · rw [hanswer]
      change (s.listPods selector).2 = s
      unfold Store.listPods
      rw [hpods]
  unfold Lifecycle.recordOf Status.ofController
  split
  · rw [bind_assoc]
    change ((ofReply (Store.handle (.listPods (.forName c.nameOrEmpty)) s).1 >>= _).run Store.handle
      (Store.handle (.listPods (.forName c.nameOrEmpty)) s).2).2 = s
    rw [hlisting]
    cases (Store.handle (.listPods (.forName c.nameOrEmpty)) s).1 <;> rfl
  · rfl

/-- The records of all stored controllers, in their order. -/
theorem run_list (hlist : s.errors .listControllers = none) :
    Adapter.list.run Store.handle s =
      (forEach s.controllers Lifecycle.recordOf).run Store.handle s := by
  have hanswer : Store.handle .listControllers s = (.ok s.controllers, s) := by
    rw [Store.handle_of_unharmed (c := .listControllers) hlist]
    rfl
  change ((ofReply (Store.handle .listControllers s).1 >>= _).run Store.handle
    (Store.handle .listControllers s).2) = _
  rw [hanswer]
  rfl

/-- The record of the controller that is stored under a name. -/
theorem run_get (hget : s.errors .getController = none) {id : String} {c : Controller}
    (hc : s.controller? id = some c) :
    (Adapter.get id).run Store.handle s = (Lifecycle.recordOf c).run Store.handle s := by
  have hanswer : Store.handle (.getController id) s = (.ok c, s) := by
    rw [Store.handle_of_unharmed (c := .getController id) hget]
    change s.getController id = _
    unfold Store.getController
    rw [hc]
    rfl
  change ((ofReply (Store.handle (.getController id) s).1 >>= Lifecycle.recordOf).run Store.handle
    (Store.handle (.getController id) s).2) = _
  rw [hanswer]
  rfl

/-- Getting a deployment changes nothing as long as no pods disappear, also if there is none. -/
theorem run_get_snd (hpods : s.listingsLeft = none) (id : String) :
    ((Adapter.get id).run Store.handle s).2 = s := by
  have hkept : (Store.handle (.getController id) s).2 = s := by
    rcases Store.handle_cases s (.getController id) with ⟨e, hfailed⟩ | hanswer
    · rw [hfailed]
    · rw [hanswer]
      change (s.getController id).2 = s
      unfold Store.getController
      split <;> rfl
  change ((ofReply (Store.handle (.getController id) s).1 >>= Lifecycle.recordOf).run Store.handle
    (Store.handle (.getController id) s).2).2 = s
  rw [hkept]
  cases (Store.handle (.getController id) s).1 with
  | error e => rfl
  | ok c => exact run_recordOf_snd hpods c

end Looks

/-! ## Stores whose controllers have names of their own -/

section Named

variable {s : Store} (hnamed : ∀ c ∈ s.controllers, c.metadata.name ≠ none)

include hnamed

/-- If all controllers have names, their names are those that lookups use. -/
theorem controllerNames_eq_map : s.controllerNames = s.controllers.map (·.nameOrEmpty) :=
  calc s.controllers.filterMap (·.metadata.name)
      = s.controllers.filterMap (fun c => some c.nameOrEmpty) :=
        List.filterMap_congr fun c hc => c.name_of_named (hnamed c hc)
    _ = s.controllers.map (·.nameOrEmpty) := congrFun List.filterMap_eq_map _

/-- If all controllers have names, their names are all there. -/
theorem map_name_controllers :
    s.controllers.map (·.metadata.name) = s.controllerNames.map some := by
  rw [controllerNames_eq_map hnamed, List.map_map]
  exact List.map_congr_left fun c hc => c.name_of_named (hnamed c hc)

variable (hdistinct : s.controllerNames.Nodup)

include hdistinct

/-- The controller with a name of its own is the one that is found by it. -/
theorem controller?_nameOrEmpty {c : Controller} (hc : c ∈ s.controllers) :
    s.controller? c.nameOrEmpty = some c :=
  Store.find?_key_of_mem hdistinct hc (c.name_of_named (hnamed c hc))

/-- The list is what getting each deployment in turn would give. -/
theorem run_list_eq_mapM (hpods : s.listingsLeft = none)
    (hlist : s.errors .listControllers = none) (hget : s.errors .getController = none) :
    Adapter.list.run Store.handle s =
      (s.controllerNames.mapM fun name => ((Adapter.get name).run Store.handle s).1, s) := by
  rw [run_list hlist, run_forEach_of_unchanged fun c _ => run_recordOf_snd hpods c,
    controllerNames_eq_map hnamed, List.mapM_map]
  refine Prod.ext (mapM_congr_left fun c hc => ?_) rfl
  exact congrArg Prod.fst (run_get hget (controller?_nameOrEmpty hnamed hdistinct hc)).symm

/-- Listing the deployments succeeds exactly if getting each of them does, and then the list holds what
that gives, in the order of the store. Otherwise it fails as getting the first of them that cannot be
got does. Neither changes anything. -/
theorem list_agrees_with_get (hpods : s.listingsLeft = none)
    (hlist : s.errors .listControllers = none) (hget : s.errors .getController = none) :
    let listed := Adapter.list.run Store.handle s
    let found name := (Adapter.get name).run Store.handle s
    s.controllers.map (·.metadata.name) = s.controllerNames.map some ∧
      ((∃ records, listed.1 = .ok records) ↔
        ∀ name ∈ s.controllerNames, ∃ record, (found name).1 = .ok record) ∧
      (∀ records, listed.1 = .ok records ↔
        List.Forall₂ (fun name record => (found name).1 = .ok record) s.controllerNames records) ∧
      (∀ failure, listed.1 = .error failure ↔
        ∃ before name after, s.controllerNames = before ++ name :: after ∧
          (∀ earlier ∈ before, ∃ record, (found earlier).1 = .ok record) ∧
          (found name).1 = .error failure) ∧
      listed.2 = s ∧ ∀ id, (found id).2 = s := by
  intro listed found
  have hlisted : listed = (s.controllerNames.mapM fun name => (found name).1, s) :=
    run_list_eq_mapM hnamed hdistinct hpods hlist hget
  rw [hlisted]
  refine ⟨map_name_controllers hnamed, ?_, ?_, ?_, rfl, run_get_snd hpods⟩
  · exact exists_mapM_eq_ok_iff s.controllerNames
  · exact mapM_eq_ok_iff s.controllerNames
  · exact mapM_eq_error_iff s.controllerNames

end Named

/-- A store of a pending deployment and one that runs, whose pods cannot be listed. -/
def pendingThenConverged : Store where
  controllers := [
    { metadata := { name := some "db" } },
    { metadata := { name := some "web" }, status := some { replicas := 1 } }]
  errors
    | .listPods => some (.other "down")
    | _ => none

/-- A store with one pending deployment and one whose pods cannot be listed: the first is shown, and
the list fails with the error of the second. -/
theorem list_agrees_with_get_pendingThenConverged :
    (∀ c ∈ pendingThenConverged.controllers, c.metadata.name ≠ none) ∧
      pendingThenConverged.controllerNames.Nodup ∧
      ((Adapter.get "db").run Store.handle pendingThenConverged).1 = .ok ⟨"db", "pending"⟩ ∧
      (Adapter.list.run Store.handle pendingThenConverged).1 = .error (.error (.internal "down")) := by
  have hnamed : ∀ c ∈ pendingThenConverged.controllers, c.metadata.name ≠ none := by decide
  have hdistinct : pendingThenConverged.controllerNames.Nodup := by decide
  have hdb : ((Adapter.get "db").run Store.handle pendingThenConverged).1 =
      .ok ⟨"db", "pending"⟩ := by rfl
  have hweb : ((Adapter.get "web").run Store.handle pendingThenConverged).1 =
      .error (.error (.internal "down")) := by rfl
  rcases list_agrees_with_get hnamed hdistinct rfl rfl rfl with ⟨-, -, -, hfails, -⟩
  refine ⟨hnamed, hdistinct, hdb, (hfails _).2 ⟨["db"], "web", [], rfl, ?_, hweb⟩⟩
  rw [List.forall_mem_singleton]
  exact ⟨_, hdb⟩

end Adapter

end Stevedore
