import Stevedore.Lifecycle
import Stevedore.Proofs.Backend.Store
/-!
# The calls that remove a deployment

The controller of a deployment is deleted last: by then all network services that were listed for it
are gone and the backend has accepted that it runs no pods. What follows only looks at the pods and
cannot fail.

Main definition:

- `Lifecycle.Removes`: the calls of a run that removes a deployment.

Main results:

- Theorem `succeeds_dismantle`: the full runs that remove the objects, call by call.
- Theorem `deleteController_of_removal`: the deletion of the controller stands at the end only.
- Theorems `Removes.of_deleteController` and `Removes.of_updateController`: what goes before the
  deletion of the controller, and what before and after its replacement.
- Theorem `destroy_sequence`: every run on every backend, and what a store in memory notes of it.
-/

namespace Stevedore.Lifecycle

open Backend Cluster Program

/-! ## The calls of a full run -/

/-- Finding the controller `c` under an id, and deleting the network services that are listed for it
and have a name. -/
def clearing (id : String) (c : Controller) (listed : List NetworkService) : List Exchange :=
  ⟨.getController id, .ok c⟩ :: ⟨.listServices (.forName (nameOf id c)), .ok listed⟩ ::
    (listed.filterMap (·.metadata.name)).map fun name => ⟨.deleteService name, .ok ()⟩

/-- The calls before the deletion of the controller. The last one sends it back as it was found but
for the number of pods, and the backend answers with `updated`. -/
def preparation (id : String) (c : Controller) (listed : List NetworkService)
    (updated : Controller) : List Exchange :=
  clearing id c listed ++ [⟨.updateController (c.scaledTo 0), .ok updated⟩]

/-- The deletion of a controller that succeeds. -/
def deletion (name : String) : Exchange := ⟨.deleteController name, .ok ()⟩

/-- All calls that remove the objects found under an id. -/
def removal (id : String) (c : Controller) (listed : List NetworkService) (updated : Controller) :
    List Exchange :=
  preparation id c listed updated ++ [deletion (nameOf id c)]

/-- The part of a removal before the wait ends with the first call that fails. -/
theorem failsFast_dismantle (id : String) : FailsFast (dismantle id) := by
  unfold dismantle
  refine (asks_getController id).failsFast.bind fun c => ?_
  refine (asks_listServices _).failsFast.bind fun listed => ?_
  refine (FailsFast.forEach (fun name => (asks_deleteService name).failsFast) _).bind fun _ => ?_
  refine (asks_updateController _).failsFast.bind fun _ => ?_
  exact (asks_deleteController _).failsFast.bind fun _ => .done _

/-- A loop of deletions that ran through has deleted every name in its turn. -/
theorem succeeds_deleteServices {names : List String} {t : List Exchange} {units : List Unit}
    (h : Succeeds (forEach names deleteService) t units) :
    t = names.map fun name => ⟨.deleteService name, .ok ()⟩ := by
  rcases Asks.succeeds_forEach asks_deleteService h with ⟨hlength, rfl⟩
  exact List.ext_getElem (by simp [hlength]) (by simp)

/-- The full runs that remove the objects of a deployment. -/
theorem succeeds_dismantle {id : String} {t : List Exchange} {selector : Selector}
    (h : Succeeds (dismantle id) t selector) :
    ∃ c listed updated, t = removal id c listed updated ∧ selector = .forName (nameOf id c) := by
  unfold dismantle at h
  rcases (succeeds_bind_iff _ _ _ _).1 h with ⟨_, t₁, c, rfl, hc, h₁⟩
  obtain rfl := ((asks_getController id).succeeds_iff _ _).1 hc
  rcases (succeeds_bind_iff _ _ _ _).1 h₁ with ⟨_, t₂, listed, rfl, hlisted, h₂⟩
  obtain rfl := ((asks_listServices _).succeeds_iff _ _).1 hlisted
  rcases (succeeds_bind_iff _ _ _ _).1 h₂ with ⟨_, t₃, units, rfl, hunits, h₃⟩
  obtain rfl := succeeds_deleteServices hunits
  rcases (succeeds_bind_iff _ _ _ _).1 h₃ with ⟨_, t₄, updated, rfl, hupdated, h₄⟩
  obtain rfl := ((asks_updateController _).succeeds_iff _ _).1 hupdated
  rcases (succeeds_bind_iff _ _ _ _).1 h₄ with ⟨_, t₅, deleted, rfl, hdeleted, h₅⟩
  obtain rfl := ((asks_deleteController _).succeeds_iff _ _).1 hdeleted
  rcases (succeeds_done_iff _ _ _).1 h₅ with ⟨rfl, rfl⟩
  exact ⟨c, listed, updated, by simp [removal, preparation, clearing, deletion], rfl⟩

/-! ## The place of the deletion -/

/-- An item of a list with a last one is that one, or it stands before it. -/
theorem concat_eq_append_cons {xs before after : List α} {last x : α}
    (h : xs ++ [last] = before ++ x :: after) :
    (before = xs ∧ x = last ∧ after = []) ∨ ∃ init, xs = before ++ x :: init := by
  rcases List.eq_nil_or_concat after with rfl | ⟨init, final, rfl⟩
  · rcases List.append_inj' h rfl with ⟨rfl, hlast⟩
    exact .inl ⟨rfl, (List.singleton_inj.1 hlast).symm, rfl⟩
  · have hconcat : xs ++ [last] = (before ++ x :: init) ++ [final] := by
      simpa using h
    exact .inr ⟨init, List.append_inj_left' hconcat rfl⟩

/-- No controller is deleted before the deletion itself. -/
theorem call_of_mem_preparation {id : String} {c updated : Controller}
    {listed : List NetworkService} {x : Exchange} (hx : x ∈ preparation id c listed updated)
    (name : String) : x.call ≠ .deleteController name := by
  unfold preparation clearing at hx
  simp only [List.cons_append, List.mem_cons, List.mem_append, List.mem_map, List.mem_filterMap,
    List.not_mem_nil, or_false] at hx
  rcases hx with rfl | rfl | ⟨_, _, rfl⟩ | rfl <;> simp

/-- In a full run the deletion of the controller stands at the end only. -/
theorem deleteController_of_removal {id : String} {c updated : Controller}
    {listed : List NetworkService} {before after : List Exchange} {x : Exchange} {name : String}
    (h : removal id c listed updated = before ++ x :: after)
    (hx : x.call = .deleteController name) :
    before = preparation id c listed updated ∧ x = deletion (nameOf id c) ∧ after = [] := by
  unfold removal at h
  rcases concat_eq_append_cons h with ⟨hbefore, rfl, rfl⟩ | ⟨init, hsplit⟩
  · exact ⟨hbefore, rfl, rfl⟩
  · have hmem : x ∈ preparation id c listed updated := by
      simp [hsplit]
    exact absurd hx (call_of_mem_preparation hmem name)

/-! ## Looking at the pods -/

/-- The looks at the pods are listings under one selector, and what they show is no failure. -/
theorem rounds_looks (handler : Handler σ) (s : σ) (clock : Clock pause) (selector : Selector)
    (deadline i : Nat) :
    (∀ x ∈ (Teardown.rounds clock selector deadline i).transcript handler s,
      x.call = .listPods selector) ∧
      ((Teardown.rounds clock selector deadline i).run handler s).1 = .ok () := by
  rw [Teardown.rounds, transcript_call, run_call, List.forall_mem_cons]
  cases hreply : (handler (.listPods selector) s).1 with
  | error e => simp
  | ok pods =>
      cases pods with
      | nil => simp
      | cons pod more =>
          by_cases hearly : clock.reading i < deadline
          · have hlater := rounds_looks handler (handler (.listPods selector) s).2 clock selector
              deadline (i + 1)
            simpa [hearly] using hlater
          · simp [hearly]
termination_by deadline - clock.reading i
decreasing_by
  have hlt := clock.reading_lt i
  omega

/-- The same of a whole wait whose end can be represented. -/
theorem wait_looks (handler : Handler σ) (s : σ) (clock : Clock pause) (selector : Selector)
    {timeout : Duration} (hend : Teardown.deadline? clock.start timeout ≠ none) :
    (∀ x ∈ (Teardown.wait clock selector timeout).transcript handler s,
      x.call = .listPods selector) ∧
      ((Teardown.wait clock selector timeout).run handler s).1 = .ok () := by
  unfold Teardown.wait
  by_cases hzero : timeout.isZero
  · simp [hzero]
  · cases hdeadline : Teardown.deadline? clock.start timeout with
    | none => contradiction
    | some deadline => simpa [hzero] using rounds_looks handler s clock selector deadline 0

/-! ## Removing a deployment -/

/-- How a run that removes a deployment ends: after all calls of a full run it looks at the pods and
returns, or a call fails before that. -/
theorem destroy_cases (handler : Handler σ) (s : σ) (config : Config)
    (clock : Clock config.pollInterval.toNanos) (id : String)
    (hend : Teardown.deadline? clock.start config.teardownTimeout ≠ none) :
    ∃ c listed updated,
      (∃ looks, (destroy config clock id).transcript handler s =
          removal id c listed updated ++ looks ∧
        (∀ x ∈ looks, x.call = .listPods (.forName (nameOf id c))) ∧
        ((destroy config clock id).run handler s).1 = .ok ()) ∨
      ∃ e, CutShort (removal id c listed updated) ((destroy config clock id).transcript handler s) e ∧
        ((destroy config clock id).run handler s).1 = .error (.error e.toError) := by
  unfold destroy
  rw [transcript_bind, run_bind]
  have hcases := (failsFast_dismantle id).run_cases handler s
  generalize (dismantle id).run handler s = pair at hcases ⊢
  rcases pair with ⟨result, after⟩
  rcases hcases with ⟨selector, hfull, rfl⟩ | ⟨full, selector, e, hfull, hcut, rfl⟩
  · rcases succeeds_dismantle hfull with ⟨c, listed, updated, ht, rfl⟩
    rcases wait_looks handler after clock (.forName (nameOf id c)) hend with ⟨hlooks, hdone⟩
    exact ⟨c, listed, updated, .inl ⟨_, by rw [ht], hlooks, hdone⟩⟩
  · rcases succeeds_dismantle hfull with ⟨c, listed, updated, rfl, -⟩
    exact ⟨c, listed, updated, .inr ⟨e, by simpa using hcut, rfl⟩⟩

/-- The calls of a run that removes a deployment: all calls of a full run and then looks at the pods, or
they are cut short by a call that fails. -/
def Removes (id : String) (c : Controller) (listed : List NetworkService) (updated : Controller)
    (t : List Exchange) : Prop :=
  (∃ looks, t = removal id c listed updated ++ looks ∧
    ∀ x ∈ looks, x.call = .listPods (.forName (nameOf id c))) ∨
  ∃ e, CutShort (removal id c listed updated) t e

/-- Whenever a controller is deleted, all calls of the preparation went before and succeeded. -/
theorem Removes.of_deleteController {id : String} {c updated : Controller} {listed : List NetworkService}
    {before after : List Exchange} {x : Exchange} {name : String}
    (h : Removes id c listed updated (before ++ x :: after)) (hx : x.call = .deleteController name) :
    name = nameOf id c ∧ before = preparation id c listed updated := by
  rcases h with ⟨looks, hfull, hlooks⟩ | ⟨e, cutBefore, last, y, rest, hremoval, hcut, hcall, -⟩
  · rcases List.append_eq_append_iff.1 hfull.symm with
      ⟨extra, rfl, hextra⟩ | ⟨rest, hremoval, hrest⟩
    · have hlook := hlooks x (by simp [hextra])
      simp [hx] at hlook
    · cases rest with
      | nil =>
          have hlook := hlooks x (by rw [← List.nil_append looks, ← hrest]; simp)
          simp [hx] at hlook
      | cons y rest =>
          rcases List.cons.inj hrest with ⟨rfl, -⟩
          rcases deleteController_of_removal hremoval hx with ⟨hbefore, rfl, -⟩
          exact ⟨by simpa [deletion] using hx.symm, hbefore⟩
  · rcases concat_eq_append_cons hcut.symm with ⟨rfl, rfl, rfl⟩ | ⟨init, rfl⟩
    · rcases deleteController_of_removal hremoval (hcall.symm.trans hx) with ⟨hbefore, rfl, -⟩
      exact ⟨by simpa [deletion, hx] using hcall, hbefore⟩
    · rw [List.append_assoc] at hremoval
      rcases deleteController_of_removal hremoval hx with ⟨-, -, hnil⟩
      simp at hnil

/-- Where an item is the only one of its kind, it stands in one place. -/
theorem eq_of_only {P : α → Prop} {xs ys before after : List α} {only x : α}
    (h : xs ++ only :: ys = before ++ x :: after) (hxs : ∀ y ∈ xs, ¬ P y) (hys : ∀ y ∈ ys, ¬ P y)
    (hx : P x) : before = xs ∧ x = only ∧ after = ys := by
  rcases List.append_eq_append_iff.1 h with ⟨extra, rfl, hextra⟩ | ⟨extra, rfl, hextra⟩
  · cases extra with
    | nil =>
        obtain ⟨rfl, rfl⟩ := List.cons.inj hextra
        exact ⟨List.append_nil _, rfl, rfl⟩
    | cons y extra =>
        obtain ⟨rfl, rfl⟩ := List.cons.inj hextra
        exact absurd hx (hys x (by simp))
  · cases extra with
    | nil =>
        obtain ⟨rfl, rfl⟩ := List.cons.inj hextra
        exact ⟨(List.append_nil _).symm, rfl, rfl⟩
    | cons y extra =>
        obtain ⟨rfl, rfl⟩ := List.cons.inj hextra
        exact absurd hx (hxs x (by simp))

/-- The call replaces a controller. -/
def IsUpdate (x : Exchange) : Prop := ∃ c, x.call = .updateController c

/-- Nothing is updated while the network services are deleted. -/
theorem not_isUpdate_of_mem_clearing {id : String} {c : Controller} {listed : List NetworkService}
    {x : Exchange} (hx : x ∈ clearing id c listed) : ¬ IsUpdate x := by
  rintro ⟨d, hd⟩
  unfold clearing at hx
  simp only [List.mem_cons, List.mem_map] at hx
  rcases hx with rfl | rfl | ⟨name, -, rfl⟩ <;> contradiction

/-- Whenever a controller is replaced, it was found under the id and asks for no pods now. The calls
before have cleared the network services away. If one follows, the replacement was accepted, and it is
the deletion of the controller. After that the pods are looked at. -/
theorem Removes.of_updateController {id : String} {c updated : Controller} {listed : List NetworkService}
    {before after : List Exchange} {x : Exchange}
    (h : Removes id c listed updated (before ++ x :: after)) (hx : IsUpdate x) :
    before = clearing id c listed ∧ x.call = .updateController (c.scaledTo 0) ∧
      (after = [] ∨ x = ⟨.updateController (c.scaledTo 0), .ok updated⟩ ∧ ∃ y looks,
        after = y :: looks ∧ y.call = .deleteController (nameOf id c) ∧
        (y.failure? = none ∨ looks = []) ∧
        ∀ z ∈ looks, z.call = .listPods (.forName (nameOf id c))) := by
  have hremoval : removal id c listed updated =
      clearing id c listed ++ ⟨.updateController (c.scaledTo 0), .ok updated⟩ ::
        [deletion (nameOf id c)] := by
    simp [removal, preparation]
  have hclearing : ∀ y ∈ clearing id c listed, ¬ IsUpdate y :=
    fun _ => not_isUpdate_of_mem_clearing
  have hdeletion : ¬ IsUpdate (deletion (nameOf id c)) := by
    rintro ⟨d, hd⟩
    contradiction
  rcases h with ⟨looks, hfull, hlooks⟩ | ⟨e, cutBefore, last, y, rest, hsplit, hcut, hcall, -⟩
  · rw [hremoval, List.append_assoc] at hfull
    have hlater : ∀ y ∈ deletion (nameOf id c) :: looks, ¬ IsUpdate y := by
      rw [List.forall_mem_cons]
      refine ⟨hdeletion, ?_⟩
      rintro y hy ⟨d, hd⟩
      rw [hlooks y hy] at hd
      contradiction
    obtain ⟨rfl, rfl, rfl⟩ := eq_of_only hfull.symm hclearing hlater hx
    exact ⟨rfl, rfl, .inr ⟨rfl, _, looks, rfl, rfl, .inl rfl, hlooks⟩⟩
  · rw [hremoval] at hsplit
    have hlater : ∀ y ∈ [deletion (nameOf id c)], ¬ IsUpdate y := by
      rw [List.forall_mem_singleton]
      exact hdeletion
    rcases concat_eq_append_cons hcut.symm with ⟨rfl, rfl, rfl⟩ | ⟨init, rfl⟩
    · have hy : IsUpdate y := by
        obtain ⟨d, hd⟩ := hx
        exact ⟨d, hcall.symm.trans hd⟩
      obtain ⟨rfl, rfl, -⟩ := eq_of_only hsplit hclearing hlater hy
      exact ⟨rfl, hcall, .inl rfl⟩
    · rw [List.append_assoc, List.cons_append] at hsplit hcut
      obtain ⟨rfl, rfl, hrest⟩ := eq_of_only hsplit hclearing hlater hx
      have hafter := List.append_cancel_left hcut
      obtain ⟨-, rfl⟩ := List.cons.inj hafter
      cases init with
      | nil =>
          obtain ⟨rfl, -⟩ := List.cons.inj hrest
          exact ⟨rfl, rfl, .inr ⟨rfl, last, [], rfl, hcall, .inr rfl, by simp⟩⟩
      | cons z init => simp at hrest

/-- Whenever a run deletes a controller, all calls of the preparation went before and succeeded. -/
theorem preparation_of_deleteController {handler : Handler σ} {s : σ} {config : Config}
    {clock : Clock config.pollInterval.toNanos} {id : String}
    (hend : Teardown.deadline? clock.start config.teardownTimeout ≠ none)
    {before after : List Exchange} {x : Exchange} {name : String}
    (ht : (destroy config clock id).transcript handler s = before ++ x :: after)
    (hx : x.call = .deleteController name) :
    ∃ c listed updated, name = nameOf id c ∧ before = preparation id c listed updated := by
  rcases destroy_cases handler s config clock id hend with
    ⟨c, listed, updated, ⟨looks, hfull, hlooks, -⟩ | ⟨e, hcut, -⟩⟩
  · rw [ht] at hfull
    have hremoves : Removes id c listed updated (before ++ x :: after) := .inl ⟨looks, hfull, hlooks⟩
    exact ⟨c, listed, updated, hremoves.of_deleteController hx⟩
  · rw [ht] at hcut
    have hremoves : Removes id c listed updated (before ++ x :: after) := .inr ⟨e, hcut⟩
    exact ⟨c, listed, updated, hremoves.of_deleteController hx⟩

/-- A run that is cut short deletes no controller. -/
theorem deletion_not_mem_of_cutShort {id : String} {c updated : Controller}
    {listed : List NetworkService} {t : List Exchange} {e : BackendError}
    (h : CutShort (removal id c listed updated) t e) (name : String) : deletion name ∉ t := by
  rcases h with ⟨before, last, y, rest, hremoval, rfl, -, hfail⟩
  intro hmem
  rcases List.mem_append.1 hmem with hmem | hmem
  · rcases List.append_of_mem hmem with ⟨init, middle, rfl⟩
    rw [List.append_assoc] at hremoval
    rcases deleteController_of_removal hremoval rfl with ⟨-, -, hnil⟩
    simp at hnil
  · obtain rfl := List.mem_singleton.1 hmem
    nomatch hfail

/-- In memory, the controller asks for no pods when it is deleted. -/
theorem stored_of_deleteController {j : Journal} {config : Config}
    {clock : Clock config.pollInterval.toNanos} {id : String}
    (hend : Teardown.deadline? clock.start config.teardownTimeout ≠ none)
    {before after : List Exchange} {x : Exchange} {name : String}
    (ht : (destroy config clock id).transcript Journal.handle j = before ++ x :: after)
    (hx : x.call = .deleteController name) :
    ((replay Journal.handle j before).store.sighting x.call).stored = some 0 := by
  rcases preparation_of_deleteController hend ht hx with ⟨c, listed, updated, rfl, rfl⟩
  have hname : c.metadata.name = some id := by
    have hfirst : (destroy config clock id).transcript Journal.handle j =
        [] ++ ⟨.getController id, .ok c⟩ :: _ := ht
    have hget := reply_of_transcript hfirst
    exact Store.name_of_getController hget.symm
  have hkey : nameOf id c = id := by
    simp [nameOf, hname]
  unfold preparation at ht ⊢
  rw [List.append_assoc] at ht
  have hupdate := reply_of_transcript ht
  have hscaled : (c.scaledTo 0).metadata.name = some id := hname
  have hstored := Store.controller?_of_updateController hscaled hupdate.symm
  rw [replay_concat, hx, hkey]
  change (Store.controller? _ id).bind (·.desired?) = some 0
  rw [Journal.store_snd_handle, hstored]
  rfl

/-- On every backend the calls of a run are those of `removal`, all of which succeed, and then
listings of the pods, whatever they show; or they follow `removal` up to the first call that fails
and the error of that call is returned. So a run returns exactly if it deleted the controller, and
whenever it tries to, it has deleted the network services and scaled the controller down just
before. A journal shows that the controller then asks for no pods. -/
theorem destroy_sequence (config : Config) (clock : Clock config.pollInterval.toNanos)
    (hend : Teardown.deadline? clock.start config.teardownTimeout ≠ none) (id : String) :
    (∀ {σ : Type} (handler : Handler σ) (s : σ),
      let t := (destroy config clock id).transcript handler s
      let outcome := ((destroy config clock id).run handler s).1
      (∃ c listed updated,
        (∃ looks, t = removal id c listed updated ++ looks ∧
          (∀ x ∈ looks, x.call = .listPods (.forName (nameOf id c))) ∧ outcome = .ok ()) ∨
        ∃ e, CutShort (removal id c listed updated) t e ∧
          outcome = .error (.error e.toError)) ∧
      (outcome = .ok () ↔ ∃ name, deletion name ∈ t) ∧
      ∀ before x after name, t = before ++ x :: after → x.call = .deleteController name →
        ∃ c listed updated, name = nameOf id c ∧ before = preparation id c listed updated) ∧
    ∀ j : Journal, ∃ noted,
      ((destroy config clock id).run Journal.handle j).2.calls = j.calls ++ noted ∧
      ∀ g ∈ noted, ∀ name, g.call = .deleteController name → g.stored = some 0 := by
  constructor
  · intro σ handler s t outcome
    have hcases := destroy_cases handler s config clock id hend
    refine ⟨hcases, ?_, ?_⟩
    · rcases hcases with ⟨c, listed, updated, ⟨looks, hfull, -, hok⟩ | ⟨e, hcut, herror⟩⟩
      · refine ⟨fun _ => ⟨nameOf id c, ?_⟩, fun _ => hok⟩
        simp [t, hfull, removal]
      · constructor
        · intro hok
          simp [outcome, herror] at hok
        · rintro ⟨name, hmem⟩
          exact absurd hmem (deletion_not_mem_of_cutShort hcut name)
    · intro before x after name ht hx
      exact preparation_of_deleteController hend ht hx
  · intro j
    rcases Journal.calls_replay j ((destroy config clock id).transcript Journal.handle j) with
      ⟨noted, hcalls, hnoted⟩
    refine ⟨noted, ?_, ?_⟩
    · rw [run_snd, hcalls]
    · intro g hg name hcall
      rcases hnoted g hg with ⟨before, x, after, ht, rfl⟩
      rw [Store.call_sighting] at hcall
      exact stored_of_deleteController hend ht hcall

/-- A journal over one deployment with one network service. -/
def web : Journal where
  store := {
    controllers := [{ metadata := { name := some "web" } }]
    services := [{
      metadata := { name := some "www", labels := some (.single serviceNameLabel "web") } }] }

/-- A removal without wait returns, and it has deleted the controller. -/
theorem destroy_sequence_web :
    let config : Config := { teardownTimeout := .ofSeconds 0 }
    let clock := Clock.steady config.pollInterval.toNanos 0 0
    Teardown.deadline? clock.start config.teardownTimeout ≠ none ∧
      ((destroy config clock "web").run Journal.handle web).1 = .ok () ∧
      ∃ name, deletion name ∈ (destroy config clock "web").transcript Journal.handle web := by
  intro config clock
  have hend : Teardown.deadline? clock.start config.teardownTimeout ≠ none := by decide
  have hok : ((destroy config clock "web").run Journal.handle web).1 = .ok () := by rfl
  rcases destroy_sequence config clock hend "web" with ⟨hruns, -⟩
  rcases hruns Journal.handle web with ⟨-, hiff, -⟩
  exact ⟨hend, hok, hiff.1 hok⟩

end Stevedore.Lifecycle
