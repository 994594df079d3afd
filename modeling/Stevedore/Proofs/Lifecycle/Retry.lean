import Mathlib.Data.List.Induction
import Stevedore.Proofs.Backend.Balance
import Stevedore.Proofs.Backend.Faults
import Stevedore.Proofs.Lifecycle.RemovalInMemory
/-!
# Removals that fail and are tried again

Any call of a removal may fail. Before the controller is deleted, a removal takes away network services
that go with the deployment, and it scales the controller down. Neither matters to another attempt:
the controller is still found under its name, the network services that are left still bear its
label, and what the second attempt takes away is what the first one would have.

Main definitions:

- `Call.looks`: calls that ask for no change.
- `PartlyRemoved`: what a removal may have done when it fails.
- `Removal.ending`: how the wait of a removal ends.

Main results:

- Theorem `PartlyRemoved.concat`: each call before the deletion keeps to this.
- Theorem `Removal.run_cases`: a removal takes everything away, or it fails part of the way.
- Theorem `destroy_retried`: the second attempt after a failure does what the first one should have.
-/

namespace Stevedore

open Backend Cluster Program

/-! ## Answers of a backend whose calls may fail -/

/-- The call looks at objects and asks for no change. -/
def Backend.Call.looks : Call → Bool
  | .listControllers | .getController _ | .listPods _ | .listServices _ | .health => true
  | _ => false

namespace Backend.Fallible

variable {handler : Handler σ} {store : σ → Store}

/-- A controller that is found is the one that is stored. -/
theorem controller?_of_getController (hf : Fallible handler store) {name : String} {c : Controller}
    {s : σ} (h : (handler (.getController name) s).1 = .ok c) :
    (store s).controller? name = some c := by
  have hsuccess : (Call.getController name).failure? (handler (.getController name) s).1 = none := by
    rw [h]
    rfl
  obtain ⟨hreply, -⟩ := hf.eq_answer_of_success (by simp) hsuccess
  have hanswer : ((store s).getController name).1 = .ok c := hreply.symm.trans h
  unfold Store.getController at hanswer
  cases hfound : (store s).controller? name with
  | none => simp [hfound] at hanswer
  | some found => simpa [hfound] using hanswer

/-- What is listed are the stored network services that the selector selects. -/
theorem eq_filter_of_listServices (hf : Fallible handler store) {selector : Selector}
    {listed : List NetworkService} {s : σ}
    (h : (handler (.listServices selector) s).1 = .ok listed) :
    listed = (store s).services.filter fun v => selector.selects v.metadata.labels := by
  have hsuccess : (Call.listServices selector).failure? (handler (.listServices selector) s).1 =
      none := by
    rw [h]
    rfl
  obtain ⟨hreply, -⟩ := hf.eq_answer_of_success (by simp) hsuccess
  have hanswer : ((store s).listServices selector).1 = .ok listed := hreply.symm.trans h
  exact (Except.ok.inj hanswer).symm

/-- Looking at a controller changes nothing. -/
theorem store_getController (hf : Fallible handler store) (name : String) (s : σ) :
    store (handler (.getController name) s).2 = store s := by
  rcases hf (.getController name) s with ⟨_, -, hkept⟩ | ⟨-, hstate⟩
  · exact hkept
  · rw [hstate]
    change ((store s).getController name).2 = store s
    unfold Store.getController
    split <;> rfl

/-- What only looks at objects changes nothing but the pods. -/
theorem sameButPods_of_looks (hf : Fallible handler store) {c : Call} (hc : c.looks) (s : σ) :
    Store.SameButPods (store s) (store (handler c s).2) := by
  rcases hf c s with ⟨_, -, hkept⟩ | ⟨-, hstate⟩
  · rw [hkept]
    exact .refl (store s)
  · rw [hstate]
    cases c with
    | listPods selector => exact Store.sameButPods_listPods (store s) selector
    | getController name =>
        change Store.SameButPods (store s) ((store s).getController name).2
        unfold Store.getController
        split <;> exact .refl (store s)
    | listControllers => exact .refl (store s)
    | listServices selector => exact .refl (store s)
    | health => exact .refl (store s)
    | _ => contradiction

/-- Calls that only look change nothing but the pods. -/
theorem sameButPods_replay (hf : Fallible handler store) {t : List Exchange}
    (ht : ∀ x ∈ t, x.call.looks) (s : σ) :
    Store.SameButPods (store s) (store (replay handler s t)) := by
  induction t generalizing s with
  | nil => exact .refl (store s)
  | cons x rest ih =>
      rw [List.forall_mem_cons] at ht
      exact (hf.sameButPods_of_looks ht.1 s).trans (ih ht.2 (handler x.call s).2)

end Backend.Fallible

/-! ## Part of a removal -/

namespace Backend.Store

/-- A stored controller keeps its name when it is scaled. -/
theorem name_scaledTo_of_controller? {s : Store} {name : String} {c : Controller}
    (h : s.controller? name = some c) (replicas : Int32) :
    (c.scaledTo replicas).metadata.name = some name := by
  rw [Controller.metadata_scaledTo]
  exact name_of_controller? h

/-- A controller that takes the place of another one leaves no trace of that. -/
theorem replaceFirst_replaceFirst {name : String} {old : Controller} (hold : old.metadata.name = some name)
    (new : Controller) (controllers : List Controller) :
    replaceFirst name new (replaceFirst name old controllers) = replaceFirst name new controllers := by
  induction controllers with
  | nil => rfl
  | cons c rest ih =>
      by_cases hc : c.metadata.name = some name
      · simp [replaceFirst, hc, hold]
      · simp [replaceFirst, hc, ih]

end Backend.Store

namespace Lifecycle

/-- The calls of a removal before it deletes the controller, with the objects of the store that they
are about. An update is accepted. -/
inductive Prepares (id : String) (s : Store) : Exchange → Prop
  | look (reply : Except BackendError Controller) : Prepares id s ⟨.getController id, reply⟩
  | list (selector : Selector) (reply : Except BackendError (List NetworkService)) :
      Prepares id s ⟨.listServices selector, reply⟩
  | clear {v : NetworkService} {name : String} (hfound : s.HasController id) (hv : v ∈ s.services)
      (hname : v.metadata.name = some name) (hgoes : v.GoesWith id)
      (reply : Except BackendError Unit) : Prepares id s ⟨.deleteService name, reply⟩
  | scale {c : Controller} (hfound : s.controller? id = some c) (updated : Controller) :
      Prepares id s ⟨.updateController (c.scaledTo 0), .ok updated⟩

/-- What a removal may have done to a store before it deletes the controller: the controller is as it
was, or it was scaled down by a call of the log, and of the network services only such are gone as go
with the deployment. -/
structure PartlyRemoved (id : String) (s : Store) (log : List Exchange) (t : Store) : Prop where
  controllers : t.controllers = s.controllers ∨
    ∃ c updated, s.controller? id = some c ∧
      t.controllers = Store.replaceFirst id (c.scaledTo 0) s.controllers ∧
      ⟨.updateController (c.scaledTo 0), .ok updated⟩ ∈ log
  services_sublist : t.services.Sublist s.services
  services_kept : (t.services.filter fun v => s.HasController id → ¬ v.GoesWith id) =
    s.services.filter fun v => s.HasController id → ¬ v.GoesWith id

namespace PartlyRemoved

variable {id : String} {s t : Store} {log : List Exchange}

theorem refl (id : String) (s : Store) (log : List Exchange) : PartlyRemoved id s log s where
  controllers := .inl rfl
  services_sublist := .refl _
  services_kept := rfl

/-- The log may hold other calls. -/
theorem mono (h : PartlyRemoved id s log t) {more : List Exchange} (hlog : log ⊆ more) :
    PartlyRemoved id s more t where
  controllers := by
    rcases h.controllers with hsame | ⟨c, updated, hc, hscaled, hmem⟩
    · exact .inl hsame
    · exact .inr ⟨c, updated, hc, hscaled, hlog hmem⟩
  services_sublist := h.services_sublist
  services_kept := h.services_kept

/-- A network service that goes with the deployment is taken away. -/
theorem deleteService (h : PartlyRemoved id s log t) (hnames : s.DistinctNames)
    (hfound : s.HasController id) {v : NetworkService} {name : String} (hv : v ∈ s.services)
    (hname : v.metadata.name = some name) (hgoes : v.GoesWith id) :
    PartlyRemoved id s log (t.deleteService name).2 where
  controllers := h.controllers
  services_sublist := List.filter_sublist.trans h.services_sublist
  services_kept := by
    rw [← h.services_kept]
    unfold Store.deleteService
    rw [List.filter_filter]
    refine List.filter_congr fun w hw => ?_
    by_cases hsame : w.metadata.name = some name
    · have hstored : w ∈ s.services := h.services_sublist.subset hw
      obtain rfl : w = v :=
        Store.eq_of_nodup_filterMap hnames.services_nodup hstored hv hsame hname
      simp [hfound, hgoes]
    · simp [hsame]

/-- The controller is scaled down. -/
theorem updateController (h : PartlyRemoved id s log t) {c updated : Controller}
    (hc : s.controller? id = some c)
    (hmem : ⟨.updateController (c.scaledTo 0), .ok updated⟩ ∈ log) :
    PartlyRemoved id s log (t.updateController (c.scaledTo 0)).2 := by
  have hname := Store.name_scaledTo_of_controller? hc 0
  unfold Store.updateController
  rw [Controller.nameOrEmpty_of_name hname]
  split
  · refine ⟨.inr ⟨c, updated, hc, ?_, hmem⟩, h.services_sublist, h.services_kept⟩
    rcases h.controllers with hsame | ⟨d, _, hd, hscaled, -⟩
    · rw [hsame]
    · rw [hscaled]
      exact Store.replaceFirst_replaceFirst (Store.name_scaledTo_of_controller? hd 0) _ _
  · exact h

/-- Each call before the deletion keeps to what a removal may have done, whether it fails or not. -/
theorem concat {handler : Handler σ} {store : σ → Store} (hf : Fallible handler store)
    (hnames : s.DistinctNames) {u : σ} (h : PartlyRemoved id s log (store u)) {x : Exchange}
    (hx : Prepares id s x) : PartlyRemoved id s (log ++ [x]) (store (handler x.call u).2) := by
  have hmore : PartlyRemoved id s (log ++ [x]) (store u) := h.mono (List.subset_append_left _ _)
  rcases hf x.call u with ⟨_, -, hkept⟩ | ⟨-, hstate⟩
  · rw [hkept]
    exact hmore
  · cases hx with
    | look reply =>
        rw [hf.store_getController]
        exact hmore
    | list selector reply =>
        rw [hstate]
        exact hmore
    | clear hfound hv hname hgoes reply =>
        rw [hstate]
        exact hmore.deleteService hnames hfound hv hname hgoes
    | scale hfound updated =>
        rw [hstate]
        exact hmore.updateController hfound (List.mem_append_right log List.mem_cons_self)

/-- Calls that prepare a removal leave it partly done. -/
theorem replay {handler : Handler σ} {store : σ → Store} (hf : Fallible handler store) {u : σ}
    (hnames : (store u).DistinctNames) {log : List Exchange}
    (hlog : ∀ x ∈ log, Prepares id (store u) x) :
    PartlyRemoved id (store u) log (store (replay handler u log)) := by
  induction log using List.reverseRecOn with
  | nil => exact .refl id (store u) []
  | append_singleton before x ih =>
      rw [replay_concat]
      have hbefore := ih fun y hy => hlog y (List.mem_append_left _ hy)
      exact hbefore.concat hf hnames (hlog x (by simp))

/-- The deployment stays until it is deleted. -/
theorem hasController_iff (h : PartlyRemoved id s log t) :
    t.HasController id ↔ s.HasController id := by
  unfold Store.HasController
  rcases h.controllers with hsame | ⟨c, _, hc, hscaled, -⟩
  · rw [hsame]
  · rw [hscaled]
    exact Store.mem_names_replaceFirst_iff (Store.name_scaledTo_of_controller? hc 0) _ _

/-- The names stay distinct while a removal is under way. -/
theorem distinctNames (h : PartlyRemoved id s log t) (hs : s.DistinctNames) : t.DistinctNames := by
  refine ⟨?_, hs.services_nodup.sublist (h.services_sublist.filterMap _)⟩
  unfold Store.controllerNames
  rcases h.controllers with hsame | ⟨c, _, hc, hscaled, -⟩
  · rw [hsame]
    exact hs.controllers_nodup
  · have hname := Store.name_scaledTo_of_controller? hc 0
    rw [hscaled]
    have hsublist := Store.filterMap_name_replaceFirst (c.scaledTo 0) s.controllers
    rw [Controller.nameOrEmpty_of_name hname] at hsublist
    exact hs.controllers_nodup.sublist hsublist

/-- What a whole removal takes away from what is left is what it would have taken away before. -/
theorem objects_without (h : PartlyRemoved id s log t) :
    (t.without [id]).controllers = (s.without [id]).controllers ∧
      (t.without [id]).services = (s.without [id]).services := by
  have hsingle : ∀ u : Store, (u.without [id]).controllers =
      u.controllers.filter fun c => c.metadata.name != some id := by
    intro u
    refine List.filter_congr fun c _ => ?_
    rw [Bool.eq_iff_iff]
    simp
  constructor
  · rw [hsingle, hsingle]
    rcases h.controllers with hsame | ⟨c, _, hc, hscaled, -⟩
    · rw [hsame]
    · rw [hscaled]
      exact Store.filter_replaceFirst (Store.name_scaledTo_of_controller? hc 0) s.controllers
  · have hkept := h.services_kept
    unfold Store.without
    simp only [List.forall_mem_singleton, h.hasController_iff]
    exact hkept

end PartlyRemoved

/-! ## The calls of a removal that fails -/

section Calls

variable {handler : Handler σ} {store : σ → Store}

/-- Before the call that fails, a removal has only prepared the deletion of the controller. -/
theorem prepares_of_removal (hf : Fallible handler store) {s : σ} {id : String}
    {c updated : Controller} {listed : List NetworkService} {before after : List Exchange}
    {x y : Exchange} (ht : (dismantle id).transcript handler s = before ++ [x])
    (hsplit : removal id c listed updated = before ++ y :: after) :
    ∀ z ∈ before, Prepares id (store s) z := by
  have hshape : removal id c listed updated =
      ⟨.getController id, .ok c⟩ :: ⟨.listServices (.forName (nameOf id c)), .ok listed⟩ ::
        ((((listed.filterMap (·.metadata.name)).map fun name =>
          (⟨.deleteService name, .ok ()⟩ : Exchange)) ++
            [⟨.updateController (c.scaledTo 0), .ok updated⟩]) ++ [deletion (nameOf id c)]) := by
    simp [removal, preparation, clearing]
  rw [hshape] at hsplit
  cases before with
  | nil => simp
  | cons first more =>
      rw [List.cons_append, List.cons.injEq] at hsplit
      obtain ⟨rfl, hsplit⟩ := hsplit
      have hget := (reply_of_transcript (show _ = [] ++ _ :: _ from ht)).symm
      have hc : (store s).controller? id = some c := hf.controller?_of_getController hget
      cases more with
      | nil =>
          intro z hz
          rw [List.mem_singleton.1 hz]
          exact .look _
      | cons second rest =>
          rw [List.cons_append, List.cons.injEq] at hsplit
          obtain ⟨rfl, hsplit⟩ := hsplit
          have hlist := (reply_of_transcript (show _ = [_] ++ _ :: _ from ht)).symm
          have hlisted := hf.eq_filter_of_listServices hlist
          have hstate : store (replay handler s [⟨.getController id, .ok c⟩]) = store s :=
            hf.store_getController id s
          have hname := Store.name_of_controller? hc
          have hkey : nameOf id c = id := by simp [nameOf, hname]
          have hfound : (store s).HasController id :=
            (Store.isSome_controller?_iff _ _).1 (by rw [hc]; rfl)
          rw [hstate, hkey] at hlisted
          intro z hz
          rcases List.mem_cons.1 hz with rfl | hz
          · exact .look _
          · rcases List.mem_cons.1 hz with rfl | hz
            · exact .list _ _
            · have hmem : z ∈ ((listed.filterMap (·.metadata.name)).map fun name =>
                  (⟨.deleteService name, .ok ()⟩ : Exchange)) ++
                    [⟨.updateController (c.scaledTo 0), .ok updated⟩] := by
                rcases concat_eq_append_cons hsplit with ⟨hrest, -, -⟩ | ⟨init, hinit⟩
                · rwa [hrest] at hz
                · rw [hinit]
                  exact List.mem_append_left _ hz
              rcases List.mem_append.1 hmem with hdelete | hupdate
              · obtain ⟨name, hnamed, rfl⟩ := List.mem_map.1 hdelete
                obtain ⟨v, hv, hvname⟩ := List.mem_filterMap.1 hnamed
                rw [hlisted] at hv
                obtain ⟨hstored, hlabel⟩ := List.mem_filter.1 hv
                have hgoes : v.GoesWith id := ⟨by simp [hvname], hlabel⟩
                exact .clear hfound hstored hvname hgoes _
              · rw [List.mem_singleton.1 hupdate]
                exact .scale hc updated

/-- No call of a removal asks for the health. -/
theorem call_ne_health_of_mem_removal {id : String} {c updated : Controller}
    {listed : List NetworkService} {x : Exchange} (hx : x ∈ removal id c listed updated) :
    x.call ≠ .health := by
  unfold removal preparation clearing deletion at hx
  simp only [List.cons_append, List.mem_cons, List.mem_append, List.mem_map,
    List.not_mem_nil, or_false] at hx
  rcases hx with rfl | rfl | (⟨_, -, rfl⟩ | rfl) | rfl <;> simp

/-- The objects of a deployment are all taken away, or a call fails before the controller is deleted
or with its deletion. -/
theorem dismantle_cases (hf : Fallible handler store) {s : σ} (hnames : (store s).DistinctNames)
    (id : String) :
    (((dismantle id).run handler s).1 = .ok (.forName id) ∧ (store s).HasController id ∧
      store ((dismantle id).run handler s).2 = (store s).without [id]) ∨
    ∃ e : BackendError, ((dismantle id).run handler s).1 = .error (.error e.toError) ∧
      PartlyRemoved id (store s) ((dismantle id).transcript handler s)
        (store ((dismantle id).run handler s).2) := by
  rcases (failsFast_dismantle id).run_cases handler s with
    ⟨selector, hfull, hrun⟩ | ⟨full, selector, e, hfull, hcut, hrun⟩
  · left
    obtain ⟨c, listed, updated, ht, -⟩ := succeeds_dismantle hfull
    have hcalls : ∀ x ∈ (dismantle id).transcript handler s,
        x.failure? = none ∧ x.call ≠ .health := by
      intro x hx
      refine ⟨hfull.failure?_eq_none x hx, ?_⟩
      rw [ht] at hx
      exact call_ne_health_of_mem_removal hx
    obtain ⟨houtcome, hstate⟩ := hf.run_of_success hcalls
    by_cases hstored : (store s).HasController id
    · rw [run_dismantle_of_stored hnames hstored] at houtcome hstate
      exact ⟨houtcome, hstored, hstate⟩
    · rw [run_dismantle_of_not_stored hstored, hrun] at houtcome
      contradiction
  · right
    obtain ⟨c, listed, updated, rfl, -⟩ := succeeds_dismantle hfull
    refine ⟨e, hrun, ?_⟩
    obtain ⟨before, x, y, after, hsplit, ht, -, hfail⟩ := hcut
    have hprepared := PartlyRemoved.replay hf hnames (prepares_of_removal hf ht hsplit)
    have hreply := reply_of_transcript (show _ = before ++ _ :: [] from ht)
    have hlast : x.call.failure? (handler x.call (replay handler s before)).1 = some e := by
      rw [← hreply]
      exact hfail
    rw [run_snd, ht, replay_concat, hf.eq_of_failure hlast]
    exact hprepared.mono (List.subset_append_left before [x])

end Calls

end Lifecycle

/-! ## Whole removals -/

namespace Removal

variable {handler : Handler σ} {store : σ → Store}

instance (r : Removal) : Decidable r.Ends := inferInstanceAs (Decidable (_ ≠ _))

/-- How the wait of a removal ends, whatever the pods do. -/
def ending (r : Removal) : Except Failure Unit :=
  if r.config.teardownTimeout.isZero ∨ r.Ends then .ok () else .error .crash

/-- A wait whose end can be represented ends well. -/
theorem ending_of_ends {r : Removal} (h : r.Ends) : r.ending = .ok () := if_pos (.inr h)

/-- No wait ends with an error. -/
theorem ending_ne_error (r : Removal) (e : Error) : r.ending ≠ .error (.error e) := by
  unfold ending
  split <;> simp

/-- How a wait ends does not depend on the backend. -/
theorem run_wait (r : Removal) (handler : Handler σ) (selector : Selector) (s : σ) :
    ((Teardown.wait r.clock selector r.config.teardownTimeout).run handler s).1 = r.ending := by
  by_cases hend : r.Ends
  · rw [ending_of_ends hend]
    exact (Lifecycle.wait_looks handler s r.clock selector hend).2
  · have hnone : Teardown.deadline? r.clock.start r.config.teardownTimeout = none := by
      simpa [Ends] using hend
    unfold Teardown.wait ending
    by_cases hzero : r.config.teardownTimeout.isZero
    · simp [hzero]
    · simp [hzero, hnone, hend]

/-- A removal takes everything away and then waits, or it fails part of the way. -/
theorem run_cases (hf : Fallible handler store) {s : σ} (hnames : (store s).DistinctNames)
    (r : Removal) :
    ((r.program.run handler s).1 = r.ending ∧ (store s).HasController r.id ∧
      Store.SameButPods ((store s).without [r.id]) (store (r.program.run handler s).2)) ∨
    ∃ e : BackendError, (r.program.run handler s).1 = .error (.error e.toError) ∧
      Lifecycle.PartlyRemoved r.id (store s) (r.program.transcript handler s)
        (store (r.program.run handler s).2) := by
  unfold program Lifecycle.destroy
  rw [run_bind, transcript_bind]
  have hcases := Lifecycle.dismantle_cases hf hnames r.id
  generalize (Lifecycle.dismantle r.id).run handler s = pair at hcases ⊢
  obtain ⟨result, after⟩ := pair
  rcases hcases with ⟨hok, hstored, hstate⟩ | ⟨e, hfailed, hpart⟩
  · left
    obtain rfl : result = .ok (.forName r.id) := hok
    refine ⟨r.run_wait handler _ after, hstored, ?_⟩
    have hwait : Store.SameButPods (store after) (store ((Teardown.wait r.clock (.forName r.id)
        r.config.teardownTimeout).run handler after).2) := by
      rw [run_snd]
      refine hf.sameButPods_replay (fun x hx => ?_) after
      rw [Teardown.listPods_of_wait handler after r.clock _ _ x hx]
      rfl
    rw [← hstate]
    exact hwait
  · right
    obtain rfl : result = .error (.error e.toError) := hfailed
    refine ⟨e, rfl, ?_⟩
    rw [List.append_nil]
    exact hpart

/-- Where nothing fails, the answer says whether the deployment was stored. -/
theorem run_fst_eq_ending (r : Removal) {s : Store} (hnames : s.DistinctNames) :
    (r.program.run Store.answer s).1 =
      if s.HasController r.id then r.ending else .error (notFound r.id) := by
  by_cases hstored : s.HasController r.id
  · unfold program Lifecycle.destroy
    rw [run_bind, Lifecycle.run_dismantle_of_stored hnames hstored, if_pos hstored]
    exact r.run_wait Store.answer _ _
  · rw [r.run_of_not_stored hstored, if_neg hstored]

end Removal

/-- A removal that failed is tried again, once nothing fails any more. Whatever had made it fail, and
wherever, the second attempt leaves the controllers and network services that a single removal without
failures would have left, and it gives the same answer: the deployment is removed, or it was never
stored. -/
theorem Lifecycle.destroy_retried {handler : Handler σ} {store : σ → Store}
    (hf : Fallible handler store) {s : σ} (hnames : (store s).DistinctNames)
    {first again : Removal} (hid : again.id = first.id) {e : Error}
    (hfailed : (first.program.run handler s).1 = .error (.error e)) :
    let retried := again.program.run Store.handle (store (first.program.run handler s).2).mended
    let single := again.program.run Store.handle (store s).mended
    retried.2.controllers = single.2.controllers ∧ retried.2.services = single.2.services ∧
      retried.1 = single.1 ∧
      (again.Ends → single.1 =
        if (store s).HasController again.id then .ok () else .error (Removal.notFound again.id)) := by
  rw [(Store.run_handle (fun _ => rfl) _).1, (Store.run_handle (fun _ => rfl) _).1]
  intro retried single
  rcases first.run_cases hf hnames with ⟨hending, -, -⟩ | ⟨_, -, hpart⟩
  · exact absurd (hending.symm.trans hfailed) (first.ending_ne_error e)
  · rw [← hid] at hpart
    have hleft := hpart.distinctNames hnames
    obtain ⟨hcontrollers, hservices⟩ := hpart.objects_without
    have hretried : Store.SameButPods _ retried.2 := again.sameButPods_run hleft.mended
    have hsingle : Store.SameButPods _ single.2 := again.sameButPods_run hnames.mended
    have hanswer : single.1 = _ := again.run_fst_eq_ending hnames.mended
    refine ⟨?_, ?_, ?_, ?_⟩
    · rw [hretried.controllers_eq, hsingle.controllers_eq]
      exact hcontrollers
    · rw [hretried.services_eq, hsingle.services_eq]
      exact hservices
    · have hagain : retried.1 = _ := again.run_fst_eq_ending hleft.mended
      rw [hagain, hanswer]
      exact if_congr hpart.hasController_iff rfl rfl
    · intro hend
      rw [hanswer, Removal.ending_of_ends hend]
      rfl

/-- A deployment with two network services. -/
def Lifecycle.site : Store where
  controllers := [{ metadata := { name := some "web" }, spec := some { replicas := some 3 } }]
  services := [
    { metadata := { name := some "www", labels := some (.single serviceNameLabel "web") } },
    { metadata := { name := some "admin", labels := some (.single serviceNameLabel "web") } }]

/-- The fourth call fails: it would have deleted the second network service. -/
def Lifecycle.lostConnection (number : Nat) (_ : Call) : Option BackendError :=
  if number = 3 then some (.other "connection lost") else none

/-- A removal that lost its connection before the second network service is made again, and nothing
is left. -/
theorem Lifecycle.destroy_retried_site :
    let failed := (Removal.prompt "web").program.run (Store.interrupted lostConnection) (site, 0)
    let retried := (Removal.prompt "web").program.run Store.handle failed.2.1.mended
    site.DistinctNames ∧
      failed.1 = .error (.error (.internal "connection lost")) ∧
      failed.2.1.services.map (·.metadata.name) = [some "admin"] ∧
      retried.1 = .ok () ∧ retried.2.controllers = [] ∧ retried.2.services = [] := by
  intro failed retried
  have hnames : site.DistinctNames := ⟨by decide, by decide⟩
  have hfailed : ((Removal.prompt "web").program.run (Store.interrupted lostConnection)
      (site, 0)).1 = .error (.error (.internal "connection lost")) := by rfl
  have hsame : (Removal.prompt "web").id = (Removal.prompt "web").id := rfl
  obtain ⟨hcontrollers, hservices, hanswer, hends⟩ := destroy_retried
    (fallible_interrupted lostConnection) (s := (site, 0)) hnames hsame hfailed
  refine ⟨hnames, hfailed, by rfl, ?_, ?_, ?_⟩
  · exact (hanswer.trans (hends (Removal.ends_prompt "web"))).trans (by rfl)
  · exact hcontrollers.trans (by rfl)
  · exact hservices.trans (by rfl)

end Stevedore
