import Mathlib.Algebra.Order.Floor.Div
import Stevedore.Proofs.Duration
import Stevedore.Proofs.Lifecycle.Retry
import Stevedore.Proofs.Lifecycle.Requests
/-!
# How long a removal waits

After the objects of a deployment are deleted its pods are listed, again and again with a pause in
between. The loop has no counter. What bounds it is the time that is left: a further listing is made
only before the deadline, and each pause takes its share of that time.

Main definitions:

- `Backend.listings`: the listings of pods among some calls.
- `Exchange.ShowsNone`: a listing that ends the wait, since it shows no pod or fails.
- `Teardown.Looks`: the listings of a wait, one after the other.

Main results:

- Theorems `looks_rounds` and `Looks.length_le`: the listings of a wait, and how many there are at most.
- Theorem `length_rounds_handle`: how many there are in memory, where pods disappear.
- Theorem `listings_of_destroy`: the listings of a removal on every backend, and in memory.
-/

namespace Stevedore

open Backend Program

/-! ## Listings -/

namespace Backend

/-- The listings of pods among some calls. -/
def listings (t : List Exchange) : List Exchange :=
  t.filter fun x => x.call.operation? = some .listPods

/-- A listing of pods shows none, or it fails. -/
def Exchange.ShowsNone (selector : Selector) (x : Exchange) : Prop :=
  x = ⟨.listPods selector, .ok []⟩ ∨ ∃ e, x = ⟨.listPods selector, .error e⟩

/-- Listings of the pods are listings. -/
theorem listings_eq_self {t : List Exchange} {selector : Selector}
    (h : ∀ x ∈ t, x.call = .listPods selector) : listings t = t := by
  refine List.filter_eq_self.2 fun x hx => ?_
  rw [h x hx]
  rfl

theorem listings_append (t u : List Exchange) : listings (t ++ u) = listings t ++ listings u :=
  List.filter_append t u

end Backend

namespace Clock

/-- So many pauses do not fill a time yet. -/
theorem lt_ceilDiv_iff {pause : Nat} (hpause : 0 < pause) (i time : Nat) :
    i < time ⌈/⌉ pause ↔ i * pause < time := by
  rw [← not_le, ceilDiv_le_iff_le_mul hpause, not_le, Nat.mul_comm]

/-- If all pauses but one fit into a time, there are no more than needed to fill it. -/
theorem le_ceilDiv_of_lt_add {pause i time : Nat} (hpause : 0 < pause)
    (h : i * pause < time + pause) : i ≤ time ⌈/⌉ pause := by
  cases i with
  | zero => exact Nat.zero_le _
  | succ n =>
      rw [Nat.succ_mul] at h
      exact (lt_ceilDiv_iff hpause n time).2 (by omega)

/-- Each listing but the first comes a pause after the one before it. -/
theorem start_add_le_reading (clock : Clock pause) (i : Nat) :
    clock.start + i * pause ≤ clock.reading i := by
  induction i with
  | zero =>
      have hstart := clock.start_le
      omega
  | succ i ih =>
      have hpause := clock.advances i
      rw [Nat.add_mul]
      omega

end Clock

/-- Only a listing of pods has an effect on them. -/
theorem Backend.Store.pods_answer {c : Call} (hc : c.operation? ≠ some .listPods) (s : Store) :
    (answer c s).2.pods = s.pods ∧ (answer c s).2.listingsLeft = s.listingsLeft := by
  cases c with
  | listPods selector => exact absurd rfl hc
  | getController name =>
      change (s.getController name).2.pods = _ ∧ (s.getController name).2.listingsLeft = _
      unfold getController
      split <;> exact ⟨rfl, rfl⟩
  | createController c =>
      change (s.createController c).2.pods = _ ∧ (s.createController c).2.listingsLeft = _
      unfold createController
      split <;> exact ⟨rfl, rfl⟩
  | updateController c =>
      change (s.updateController c).2.pods = _ ∧ (s.updateController c).2.listingsLeft = _
      unfold updateController
      split <;> exact ⟨rfl, rfl⟩
  | deleteController name =>
      change (s.deleteController name).2.pods = _ ∧ (s.deleteController name).2.listingsLeft = _
      unfold deleteController
      split <;> exact ⟨rfl, rfl⟩
  | createService v =>
      change (s.createService v).2.pods = _ ∧ (s.createService v).2.listingsLeft = _
      unfold createService
      split <;> exact ⟨rfl, rfl⟩
  | _ => exact ⟨rfl, rfl⟩

namespace Teardown

variable {clock : Clock pause} {selector : Selector} {deadline i : Nat} {t : List Exchange}

/-! ## The listings of a wait -/

/-- The listings of a wait from the `i`-th on. One that shows no pod or fails is the last one; one that
shows pods is the last one if the time is up, and else there is another after it. -/
inductive Looks (clock : Clock pause) (selector : Selector) (deadline : Nat) :
    Nat → List Exchange → Prop
  | last {i : Nat} {x : Exchange} (h : x.ShowsNone selector) : Looks clock selector deadline i [x]
  | expired {i : Nat} {pod : Cluster.Pod} {more : List Cluster.Pod}
      (h : deadline ≤ clock.reading i) :
      Looks clock selector deadline i [⟨.listPods selector, .ok (pod :: more)⟩]
  | again {i : Nat} {pod : Cluster.Pod} {more : List Cluster.Pod} {t : List Exchange}
      (h : clock.reading i < deadline) (ht : Looks clock selector deadline (i + 1) t) :
      Looks clock selector deadline i (⟨.listPods selector, .ok (pod :: more)⟩ :: t)

/-- On every backend the rounds make such listings. -/
theorem looks_rounds (handler : Handler σ) (s : σ) (clock : Clock pause) (selector : Selector)
    (deadline i : Nat) :
    Looks clock selector deadline i
      ((rounds clock selector deadline i).transcript handler s) := by
  rw [rounds, transcript_call]
  generalize handler (.listPods selector) s = answer
  obtain ⟨reply, after⟩ := answer
  rcases reply with e | ⟨_ | ⟨pod, more⟩⟩
  · exact .last (.inr ⟨e, rfl⟩)
  · exact .last (.inl rfl)
  · by_cases hearly : clock.reading i < deadline
    · have hlater := looks_rounds handler after clock selector deadline (i + 1)
      simpa [hearly] using Looks.again hearly hlater
    · simpa [hearly] using Looks.expired (Nat.le_of_not_lt hearly)
termination_by deadline - clock.reading i
decreasing_by
  have hlt := clock.reading_lt i
  omega

/-- A first listing that fails is the only one. -/
theorem length_rounds_of_failure {handler : Handler σ} {s : σ} {e : BackendError}
    (h : (handler (.listPods selector) s).1 = .error e) :
    ((rounds clock selector deadline i).transcript handler s).length = 1 := by
  rw [rounds, transcript_call, h]
  rfl

namespace Looks

/-- A wait looks at the pods at least once. -/
theorem length_pos (h : Looks clock selector deadline i t) : 1 ≤ t.length := by
  cases h <;> simp

/-- A wait makes no calls but listings of the pods. -/
theorem call_eq (h : Looks clock selector deadline i t) : ∀ x ∈ t, x.call = .listPods selector := by
  induction h with
  | last h =>
      rcases h with rfl | ⟨e, rfl⟩ <;> simp
  | expired _ => simp
  | again _ _ ih => exact List.forall_mem_cons.2 ⟨rfl, ih⟩

/-- Before the last listing the time was not up. -/
theorem reading_lt (h : Looks clock selector deadline i t) {n : Nat} (hn : t.length = n + 2) :
    clock.reading (i + n) < deadline := by
  induction h generalizing n with
  | last _ => simp at hn
  | expired _ => simp at hn
  | @again i pod more t hearly ht ih =>
      cases n with
      | zero => exact hearly
      | succ n =>
          have hlast := ih (n := n) (by simpa using hn)
          rwa [Nat.add_right_comm, Nat.add_assoc] at hlast

/-- The listings are one more than the pauses that fit into the time, at most. -/
theorem length_le {timeout : Nat} (hpause : 0 < pause)
    (h : Looks clock selector (clock.start + timeout) 0 t) : t.length ≤ timeout ⌈/⌉ pause + 1 := by
  match hlength : t.length with
  | 0 => omega
  | 1 => omega
  | n + 2 =>
      have hearly := h.reading_lt hlength
      rw [Nat.zero_add] at hearly
      have hpauses := clock.start_add_le_reading n
      have hroom : n * pause < timeout := by omega
      have hlt := (Clock.lt_ceilDiv_iff hpause n timeout).2 hroom
      omega

/-- An answer with a pod does not show that none is left. -/
theorem not_showsNone (selector : Selector) (pod : Cluster.Pod) (more : List Cluster.Pod) :
    ¬ Exchange.ShowsNone selector ⟨.listPods selector, .ok (pod :: more)⟩ := by
  rintro (h | ⟨e, h⟩)
  · have hpods := eq_of_heq (Exchange.mk.inj h).2
    nomatch hpods
  · have hpods := eq_of_heq (Exchange.mk.inj h).2
    nomatch hpods

theorem eq_of_singleton_eq {before after : List Exchange} {x y : Exchange}
    (h : [y] = before ++ x :: after) : before = [] ∧ x = y ∧ after = [] := by
  have hconcat : [] ++ [y] = before ++ x :: after := h
  rcases Lifecycle.concat_eq_append_cons hconcat with hends | ⟨init, hnil⟩
  · exact hends
  · simp at hnil

/-- A listing is the last one exactly if it shows no pod or fails or the time is up after it. -/
theorem last_iff (h : Looks clock selector deadline i t) {before after : List Exchange}
    {x : Exchange} (ht : t = before ++ x :: after) :
    after = [] ↔ x.ShowsNone selector ∨ deadline ≤ clock.reading (i + before.length) := by
  induction h generalizing before with
  | last hnone =>
      obtain ⟨-, rfl, rfl⟩ := eq_of_singleton_eq ht
      exact ⟨fun _ => .inl hnone, fun _ => rfl⟩
  | expired hlate =>
      obtain ⟨rfl, -, rfl⟩ := eq_of_singleton_eq ht
      exact ⟨fun _ => .inr hlate, fun _ => rfl⟩
  | @again i pod more t hearly hmore ih =>
      cases before with
      | nil =>
          obtain ⟨rfl, rfl⟩ := List.cons.inj ht
          have hpos := hmore.length_pos
          have hne : t ≠ [] := List.length_pos_iff.1 hpos
          have hnot : ¬ deadline ≤ clock.reading i := Nat.not_le.2 hearly
          simp [hne, hnot, not_showsNone]
      | cons first before =>
          obtain ⟨-, hrest⟩ := List.cons.inj ht
          rw [ih hrest, List.length_cons, Nat.add_right_comm, Nat.add_assoc]

end Looks

/-! ## Pods that disappear -/

/-- The next listing shows the pods of a selector, and so do `left` listings in all, unless there are
none left. Listings do not fail. -/
structure Disappearing (s : Store) (selector : Selector) (left : Nat) : Prop where
  listed : ∃ pod ∈ s.pods, selector.selects pod.metadata.labels
  listingsLeft_eq : s.listingsLeft = some left
  answered : s.errors .listPods = none

/-- Once no showing is left the listing is empty. -/
theorem Disappearing.handle_zero {s : Store} (h : Disappearing s selector 0) :
    (Store.handle (.listPods selector) s).1 = .ok [] := by
  have herror : (Call.operation? (.listPods selector)).bind s.errors = none := h.answered
  unfold Store.handle
  rw [herror]
  change (s.listPods selector).1 = _
  unfold Store.listPods
  rw [h.listingsLeft_eq]

/-- A listing shows pods, and leaves one showing less. -/
theorem Disappearing.handle_succ {s : Store} {left : Nat} (h : Disappearing s selector (left + 1)) :
    (∃ pod more, (Store.handle (.listPods selector) s).1 = .ok (pod :: more)) ∧
      Disappearing (Store.handle (.listPods selector) s).2 selector left := by
  have herror : (Call.operation? (.listPods selector)).bind s.errors = none := h.answered
  have hanswer : Store.handle (.listPods selector) s =
      (.ok (s.pods.filter fun p => selector.selects p.metadata.labels),
        { s with listingsLeft := some left }) := by
    unfold Store.handle
    rw [herror]
    change s.listPods selector = _
    simp only [Store.listPods, h.listingsLeft_eq]
    rfl
  obtain ⟨pod, hpod, hselected⟩ := h.listed
  rw [hanswer]
  constructor
  · have hshows : pod ∈ s.pods.filter fun p => selector.selects p.metadata.labels :=
      List.mem_filter.2 ⟨hpod, hselected⟩
    have hne := List.ne_nil_of_mem hshows
    obtain ⟨first, more, hshown⟩ := List.exists_cons_of_ne_nil hne
    exact ⟨first, more, congrArg Except.ok hshown⟩
  · exact ⟨⟨pod, hpod, hselected⟩, rfl, h.answered⟩

/-- With a clock that stands still but for the pauses, the pods are looked at once more than they are
shown, or once more than pauses fit into the time. -/
theorem length_rounds_handle (hpause : 0 < pause)
    (hclock : ∀ j, clock.reading j = clock.start + j * pause) {timeout left : Nat} {s : Store}
    (hs : Disappearing s selector left) (i : Nat) :
    ((rounds clock selector (clock.start + timeout) i).transcript Store.handle s).length =
      min left (timeout ⌈/⌉ pause - i) + 1 := by
  induction left generalizing s i with
  | zero =>
      rw [rounds, transcript_call, hs.handle_zero]
      simp
  | succ left ih =>
      obtain ⟨⟨pod, more, hshown⟩, hnext⟩ := hs.handle_succ
      have hearly : clock.reading i < clock.start + timeout ↔ i < timeout ⌈/⌉ pause := by
        rw [hclock, Clock.lt_ceilDiv_iff hpause]
        omega
      rw [rounds, transcript_call, hshown]
      by_cases hroom : i < timeout ⌈/⌉ pause
      · rw [if_pos (hearly.2 hroom), List.length_cons, ih hnext]
        omega
      · rw [if_neg (mt hearly.1 hroom)]
        simp
        omega

/-- A call that is no listing leaves the pods as they are. -/
theorem Disappearing.handle_other {s : Store} {left : Nat} (h : Disappearing s selector left)
    {c : Call} (hc : c.operation? ≠ some .listPods) :
    Disappearing (Store.handle c s).2 selector left := by
  rcases Store.handle_cases s c with ⟨_, hfailed⟩ | hanswered
  · rw [hfailed]
    exact h
  · obtain ⟨hpods, hleft⟩ := Store.pods_answer hc s
    rw [hanswered]
    exact {
      listed := by rw [hpods]; exact h.listed
      listingsLeft_eq := by rw [hleft]; exact h.listingsLeft_eq
      answered := by rw [Store.errors_answer]; exact h.answered }

/-- Calls that list no pods leave the showings as they are. -/
theorem Disappearing.replay {s : Store} {left : Nat} (h : Disappearing s selector left)
    {t : List Exchange} (ht : ∀ x ∈ t, x.call.operation? ≠ some .listPods) :
    Disappearing (replay Store.handle s t) selector left := by
  induction t generalizing s with
  | nil => exact h
  | cons x rest ih =>
      rw [List.forall_mem_cons] at ht
      exact ih (h.handle_other ht.1) ht.2

end Teardown

/-! ## Removals that wait -/

namespace Lifecycle

variable {clock : Clock pause} {timeout : Duration}

/-- Until the wait begins no pods are listed. -/
theorem operation?_of_dismantle (handler : Handler σ) (s : σ) (id : String) :
    ∀ x ∈ (dismantle id).transcript handler s, x.call.operation? ≠ some .listPods := by
  obtain ⟨c, listed, updated, hcalls, -⟩ := calls_of_dismantle handler s id
  intro x hx
  obtain ⟨y, hy, hcall⟩ := hcalls x hx
  rw [← hcall]
  unfold removal preparation clearing deletion at hy
  simp only [List.cons_append, List.mem_cons, List.mem_append, List.mem_map,
    List.not_mem_nil, or_false] at hy
  rcases hy with rfl | rfl | (⟨_, -, rfl⟩ | rfl) | rfl <;> simp [Call.operation?]

/-- Before the wait no pods are listed. -/
theorem listings_of_dismantle (handler : Handler σ) (s : σ) (id : String) :
    listings ((dismantle id).transcript handler s) = [] := by
  refine List.filter_eq_nil_iff.2 fun x hx => ?_
  simpa using operation?_of_dismantle handler s id x hx

/-- The wait is made of its rounds, unless there is no time for it. -/
theorem wait_eq_rounds (selector : Selector) (htime : timeout.toNanos ≠ 0)
    (hend : Teardown.deadline? clock.start timeout ≠ none) :
    Teardown.wait clock selector timeout =
      Teardown.rounds clock selector (clock.start + timeout.toNanos) 0 := by
  have hzero : timeout.isZero = false := by
    rw [Bool.eq_false_iff, ne_eq, Duration.isZero_iff]
    exact htime
  have hdeadline : Teardown.deadline? clock.start timeout =
      some (clock.start + timeout.toNanos) := by
    unfold Teardown.deadline? at hend ⊢
    exact if_pos (by simpa using hend)
  simp [Teardown.wait, hzero, hdeadline]

/-- With no time to wait nothing is done. -/
theorem wait_eq_done (selector : Selector) (htime : timeout.toNanos = 0) :
    Teardown.wait clock selector timeout = done () := by
  have hzero := (Duration.isZero_iff timeout).2 htime
  simp [Teardown.wait, hzero]

section Destroy

variable {config : Config} {clock : Clock config.pollInterval.toNanos} {handler : Handler σ}
  {s after : σ} {id : String}

/-- Once the objects are removed, the listings are those of the wait. -/
theorem destroy_of_dismantle_ok {selector : Selector}
    (hend : Teardown.deadline? clock.start config.teardownTimeout ≠ none)
    (hremoved : (dismantle id).run handler s = (.ok selector, after)) :
    let looks := (Teardown.wait clock selector config.teardownTimeout).transcript handler after
    (destroy config clock id).transcript handler s =
        (dismantle id).transcript handler s ++ looks ∧
      listings ((destroy config clock id).transcript handler s) = looks ∧
      ((destroy config clock id).run handler s).1 = .ok () := by
  intro looks
  obtain ⟨hlooks, hdone⟩ := wait_looks handler after clock selector hend
  have ht : (destroy config clock id).transcript handler s =
      (dismantle id).transcript handler s ++ looks := by
    unfold destroy
    rw [transcript_bind, hremoved]
  refine ⟨ht, ?_, ?_⟩
  · rw [ht, listings_append, listings_of_dismantle, listings_eq_self hlooks, List.nil_append]
  · unfold destroy
    rw [run_bind, hremoved]
    exact hdone

/-- A removal that fails does not wait. -/
theorem destroy_of_dismantle_error (clock : Clock config.pollInterval.toNanos) {e : Failure}
    (hfailed : (dismantle id).run handler s = (.error e, after)) :
    (destroy config clock id).transcript handler s = (dismantle id).transcript handler s ∧
      listings ((destroy config clock id).transcript handler s) = [] ∧
      ((destroy config clock id).run handler s).1 = .error e := by
  have ht : (destroy config clock id).transcript handler s =
      (dismantle id).transcript handler s := by
    unfold destroy
    rw [transcript_bind, hfailed, List.append_nil]
  refine ⟨ht, ?_, ?_⟩
  · rw [ht, listings_of_dismantle]
  · unfold destroy
    rw [run_bind, hfailed]

/-- Either way the answer is that of the removal of the objects, and the calls after that are listings. -/
theorem destroy_eq_dismantle (handler : Handler σ) (s : σ) (id : String)
    (hend : Teardown.deadline? clock.start config.teardownTimeout ≠ none) :
    let removed := ((dismantle id).run handler s).1
    let t := (destroy config clock id).transcript handler s
    ((destroy config clock id).run handler s).1 = removed.map (fun _ => ()) ∧
      t = (dismantle id).transcript handler s ++ listings t ∧
      ((config.teardownTimeout.toNanos = 0 ∨ ∃ e, removed = .error e) → listings t = []) := by
  intro removed t
  cases hrun : (dismantle id).run handler s with
  | mk result after =>
      have hresult : removed = result := congrArg Prod.fst hrun
      rw [hresult]
      cases result with
      | ok selector =>
          obtain ⟨ht, hlistings, hanswer⟩ := destroy_of_dismantle_ok hend hrun
          refine ⟨hanswer, by rw [hlistings]; exact ht, ?_⟩
          rintro (hnone | ⟨e, he⟩)
          · rw [hlistings, wait_eq_done selector hnone, transcript_done]
          · contradiction
      | error e =>
          obtain ⟨ht, hlistings, hanswer⟩ := destroy_of_dismantle_error clock hrun
          refine ⟨hanswer, ?_, fun _ => hlistings⟩
          rw [hlistings, List.append_nil]
          exact ht

/-- With time to wait, the listings are those of the rounds. -/
theorem listings_of_time {selector : Selector}
    (hend : Teardown.deadline? clock.start config.teardownTimeout ≠ none)
    (htime : 0 < config.teardownTimeout.toNanos)
    (hremoved : (dismantle id).run handler s = (.ok selector, after)) :
    listings ((destroy config clock id).transcript handler s) =
      (Teardown.rounds clock selector (clock.start + config.teardownTimeout.toNanos) 0).transcript
        handler after := by
  rw [(destroy_of_dismantle_ok hend hremoved).2.1, wait_eq_rounds selector htime.ne' hend]

end Destroy

/-- The wait of a removal is bounded and ends as early as it may. On every backend, and with every
clock by which a pause takes its time and nothing moves back, no pods are listed if the objects could
not be removed or there is no time to wait. Else they are listed at least once and at most once more
than pauses are needed to fill the time. The last listing is the first one that shows no pods or
fails, or after which the time is up, and the answer is that of the removal in any case. In memory,
where pods are shown `left` times more and pauses are all that takes time, they are listed once more
than that as long as the time allows for it. -/
theorem listings_of_destroy (config : Config) (clock : Clock config.pollInterval.toNanos)
    (hpause : 0 < config.pollInterval.toNanos)
    (hend : Teardown.deadline? clock.start config.teardownTimeout ≠ none) (id : String) :
    let pause := config.pollInterval.toNanos
    let time := config.teardownTimeout.toNanos
    (∀ {σ : Type} (handler : Handler σ) (s : σ),
      let removed := ((dismantle id).run handler s).1
      let t := (destroy config clock id).transcript handler s
      ((destroy config clock id).run handler s).1 = removed.map (fun _ => ()) ∧
      t = (dismantle id).transcript handler s ++ listings t ∧
      ((time = 0 ∨ ∃ e, removed = .error e) → listings t = []) ∧
      ∀ selector, removed = .ok selector → 0 < time →
        1 ≤ (listings t).length ∧ (listings t).length ≤ time ⌈/⌉ pause + 1 ∧
        ∀ before x after, listings t = before ++ x :: after →
          x.call = .listPods selector ∧
          (after = [] ↔
            x.ShowsNone selector ∨ clock.start + time ≤ clock.reading before.length)) ∧
    ∀ (s : Store) (left : Nat) (selector : Selector),
      ((dismantle id).run Store.handle s).1 = .ok selector →
      Teardown.Disappearing s selector left →
      (∀ j, clock.reading j = clock.start + j * pause) → 0 < time →
      let t := (destroy config clock id).transcript Store.handle s
      (listings t).length = min left (time ⌈/⌉ pause) + 1 ∧
      (left * pause < time + pause → (listings t).length = left + 1) := by
  intro pause time
  refine ⟨fun handler s => ?_, ?_⟩
  · intro removed t
    obtain ⟨hanswer, ht, hnone⟩ := destroy_eq_dismantle handler s id hend
    refine ⟨hanswer, ht, hnone, fun selector hremoved htime => ?_⟩
    have hlistings := listings_of_time hend htime (Prod.ext hremoved rfl)
    have hlooks : Teardown.Looks clock selector (clock.start + time) 0 (listings t) := by
      rw [show listings t = _ from hlistings]
      exact Teardown.looks_rounds handler _ clock selector _ 0
    refine ⟨hlooks.length_pos, hlooks.length_le hpause, fun before x after hsplit => ?_⟩
    have hmem : x ∈ listings t := by
      simp [hsplit]
    have hlast := hlooks.last_iff hsplit
    rw [Nat.zero_add] at hlast
    exact ⟨hlooks.call_eq x hmem, hlast⟩
  · intro s left selector hremoved hs hclock htime t
    have hlistings := listings_of_time hend htime (Prod.ext hremoved rfl)
    have hleft : Teardown.Disappearing ((dismantle id).run Store.handle s).2 selector left := by
      rw [run_snd]
      exact hs.replay (operation?_of_dismantle Store.handle s id)
    have hcount : (listings t).length = min left (time ⌈/⌉ pause) + 1 := by
      rw [show listings t = _ from hlistings]
      exact Teardown.length_rounds_handle hpause hclock hleft 0
    refine ⟨hcount, fun hroom => ?_⟩
    rw [hcount, Nat.min_eq_left (Clock.le_ceilDiv_of_lt_add hpause hroom)]

/-- A deployment with one pod that is shown a few times more. -/
def ending (left : Nat) : Store where
  controllers := [{ metadata := { name := some "web" } }]
  pods := [{ metadata := { labels := some (.single serviceNameLabel "web") } }]
  listingsLeft := some left

/-- The same where pods cannot be listed. -/
def unlisted (left : Nat) : Store :=
  { ending left with errors := fun op => if op = .listPods then some (.other "down") else none }

/-- A configuration that waits for some seconds with pauses of one millisecond. -/
def waiting (seconds : UInt64) : Config :=
  { teardownTimeout := .ofSeconds seconds, pollInterval := .ofMillis 1 }

/-- The clock on which nothing but the pauses takes time. -/
def paused (config : Config) : Clock config.pollInterval.toNanos := .steady _ 0 0

/-- Each reading comes one pause after the one before. -/
theorem reading_paused {config : Config} (hpause : 0 < config.pollInterval.toNanos) (j : Nat) :
    (paused config).reading j = (paused config).start + j * config.pollInterval.toNanos := by
  change 0 + 0 + j * (max config.pollInterval.toNanos 1 + 0) = 0 + _
  rw [Nat.max_eq_left hpause]
  simp

/-- A pod that is shown twice is looked for three times. -/
theorem listings_of_destroy_ending :
    0 < (waiting 10).pollInterval.toNanos ∧
      Teardown.deadline? (paused (waiting 10)).start (waiting 10).teardownTimeout ≠ none ∧
      (listings ((destroy (waiting 10) (paused (waiting 10)) "web").transcript Store.handle
        (ending 2))).length = 3 := by
  have hpause : 0 < (waiting 10).pollInterval.toNanos := by decide
  have hend : Teardown.deadline? (paused (waiting 10)).start (waiting 10).teardownTimeout ≠ none := by
    decide
  have hremoved : ((dismantle "web").run Store.handle (ending 2)).1 = .ok (.forName "web") := by rfl
  have hpods : Teardown.Disappearing (ending 2) (.forName "web") 2 := ⟨by decide, rfl, rfl⟩
  have hcount := ((listings_of_destroy (waiting 10) (paused (waiting 10)) hpause hend "web").2
    (ending 2) 2 (.forName "web") hremoved hpods (reading_paused hpause) (by decide)).2
  exact ⟨hpause, hend, hcount (by decide)⟩

/-- With no time to wait the pods are not listed even once, though no pause is too long for that; and
with time enough for three listings there is one only, if it fails. -/
theorem listings_of_destroy_fewer :
    (0 * (waiting 0).pollInterval.toNanos <
        (waiting 0).teardownTimeout.toNanos + (waiting 0).pollInterval.toNanos ∧
      (listings ((destroy (waiting 0) (paused (waiting 0)) "web").transcript Store.handle
        (ending 0))).length ≠ 0 + 1) ∧
    2 * (waiting 10).pollInterval.toNanos <
        (waiting 10).teardownTimeout.toNanos + (waiting 10).pollInterval.toNanos ∧
      (listings ((destroy (waiting 10) (paused (waiting 10)) "web").transcript Store.handle
        (unlisted 2))).length ≠ 2 + 1 := by
  have hend : Teardown.deadline? (paused (waiting 10)).start (waiting 10).teardownTimeout ≠ none := by
    decide
  have hremoved : (dismantle "web").run Store.handle (unlisted 2) =
      (.ok (.forName "web"), ((dismantle "web").run Store.handle (unlisted 2)).2) := by rfl
  refine ⟨⟨by decide, ?_⟩, by decide, ?_⟩
  · rw [(destroy_eq_dismantle Store.handle (ending 0) "web" (by decide)).2.2 (.inl (by decide))]
    decide
  · have hfailed : (Store.handle (.listPods (.forName "web"))
        ((dismantle "web").run Store.handle (unlisted 2)).2).1 = .error (.other "down") := by rfl
    rw [listings_of_time hend (by decide) hremoved, Teardown.length_rounds_of_failure hfailed]
    decide

end Lifecycle

end Stevedore
