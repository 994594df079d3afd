import Stevedore.Proofs.Adapter.Scope
import Mathlib.Data.List.Forall2
/-!
# Runs over a scripted connection

A call that has a request sends it and takes the next response, and a call that has none fails. So as
long as no call fails, the requests that were sent and the responses that were taken are those of the
calls, one by one.

Main definitions:

- `Api.queryValue?`: the value of a parameter in the query of a URI.
- `Api.Script.responseAt`: the response to the request with a number.

Main results:

- Theorem `queryValue?_listServices`: what a listing of network services asks for.
- Theorems `Script.split_of_sent` and `Script.sent_of_split`: what was sent are the requests of the calls.
- Theorem `Script.exists_request_of_success`: a call that does not fail has a request.
- Theorem `Script.reply_of_sent`: each answer is read from the response to its request.
-/

namespace Stevedore

open Backend Cluster Program

namespace Text

/-- What stands after the first mark. -/
def after (mark : Char) (cs : List Char) : List Char := (cs.dropWhile (· != mark)).drop 1

/-- What stands after the first mark, if what comes before it has none. -/
theorem after_append {mark : Char} {cs : List Char} (h : mark ∉ cs) (ds : List Char) :
    after mark (cs ++ mark :: ds) = ds := by
  have hfront : ∀ c ∈ cs, (c != mark) = true := by
    intro c hc
    have hne : c ≠ mark := fun heq => h (heq ▸ hc)
    simpa using hne
  unfold after
  rw [List.dropWhile_append_of_pos hfront]
  simp

end Text

namespace Api

open Text (upTo formEncode pieces)

/-! ## Values in the query of a URI -/

/-- The value of the first parameter with a key in the query of a URI. -/
def queryValue? (key : String) (uri : String) : Option (List Char) :=
  (pieces '&' (Text.after '?' uri.toList)).findSome? fun piece =>
    piece.dropPrefix? (key ++ "=").toList

/-- What a text starts with can be taken from it. -/
theorem dropPrefix?_append (cs ds : List Char) : (cs ++ ds).dropPrefix? cs = some ds := by
  rw [List.dropPrefix?_eq_some_iff]
  exact ⟨cs, rfl, beq_self_eq_true cs⟩

section

variable {clusterNamespace : String} {q : Request}

/-- The listing of network services asks for the labels of its selector. -/
theorem queryValue?_listServices (hquery : '?' ∉ clusterNamespace.toList)
    (hfragment : '#' ∉ clusterNamespace.toList) {selector : Selector}
    (hselector : selector.isEmpty = false)
    (hq : request clusterNamespace (.listServices selector) = .ok q) :
    queryValue? "labelSelector" q.uri = some (formEncode selector.text).toList := by
  generalize hvalue : (formEncode selector.text).toList = value
  have hvalue_mark : ∀ mark, (mark.isAlphanum || ['*', '-', '.', '_', '+', '%'].contains mark) = false →
      mark ∉ value := by
    intro mark hmark hmem
    rw [← hvalue] at hmem
    rw [Text.isFormChar_of_mem_formEncode hmem] at hmark
    contradiction
  have htarget : (target clusterNamespace (.listServices selector)).toList =
      (collection clusterNamespace .services).toList ++
        '?' :: '&' :: ("labelSelector=".toList ++ value) := by
    simp [target, targetParts, labelQuery, hselector, hvalue]
  have hcollection_query := (not_mem_collection_iff .services (.inl rfl)).2 hquery
  have hcollection_fragment := (not_mem_collection_iff .services (.inr rfl)).2 hfragment
  have hwhole : '#' ∉ (collection clusterNamespace .services).toList ++
      '?' :: '&' :: ("labelSelector=".toList ++ value) := by
    have hkey : '#' ∉ '?' :: '&' :: "labelSelector=".toList := by decide
    rw [List.mem_append, not_or]
    refine ⟨hcollection_fragment, ?_⟩
    rw [← List.cons_append, ← List.cons_append, List.mem_append, not_or]
    exact ⟨hkey, hvalue_mark '#' (by decide)⟩
  have hpiece : '&' ∉ "labelSelector=".toList ++ value := by
    rw [List.mem_append, not_or]
    exact ⟨by decide, hvalue_mark '&' (by decide)⟩
  unfold queryValue?
  rw [(request_ok hq).2.2, htarget, Text.upTo_of_not_mem hwhole, Text.after_append hcollection_query,
    pieces, if_pos rfl, Text.pieces_of_not_mem hpiece]
  have hempty : ([] : List Char).dropPrefix? ("labelSelector" ++ "=").toList = none := by decide
  have hfound : ("labelSelector=".toList ++ value).dropPrefix? ("labelSelector" ++ "=").toList =
      some value := dropPrefix?_append _ value
  rw [List.findSome?_cons, hempty, List.findSome?_cons, hfound]

end

/-! ## Requests and responses of a run -/

namespace Script

section

variable {clusterNamespace : String} {p : Program α} {s : Script} {before after : List Exchange}
  {x : Exchange} {q : Request}

/-- The response to the request with a number; there may be none. -/
def responseAt (s : Script) (i : Nat) : Response :=
  s.responses[i]?.getD (.lost "no scripted response")

/-- A call with a request is answered with what the next response says. -/
theorem handle_eq_reply {call : Call} (hq : request clusterNamespace call = .ok q) (s : Script) :
    handle clusterNamespace call s =
      (reply (s.responseAt 0) call, ⟨s.responses.drop 1, s.sent ++ [q]⟩) := by
  unfold handle
  rw [hq]
  obtain ⟨responses, sent⟩ := s
  cases responses <;> rfl

/-- A call whose response holds a value ends with it. -/
theorem run_of_response {c : Call} {ok : α → c.Reply} (hp : Asks p c ok)
    (hq : request clusterNamespace c = .ok q) {a : α} (ha : reply (s.responseAt 0) c = ok a) :
    p.run (handle clusterNamespace) s = (.ok a, ⟨s.responses.drop 1, s.sent ++ [q]⟩) := by
  have hhandle := handle_eq_reply hq s
  have hreply : (handle clusterNamespace c s).1 = ok a := by
    rw [hhandle]
    exact ha
  rw [hp.run_of_success hreply, hhandle]

/-- Calls with requests take as many responses. -/
theorem responses_replay {t : List Exchange}
    (h : ∀ y ∈ t, ∃ q, request clusterNamespace y.call = .ok q) (s : Script) :
    (replay (handle clusterNamespace) s t).responses = s.responses.drop t.length := by
  induction t generalizing s with
  | nil => rfl
  | cons y rest ih =>
      rw [List.forall_mem_cons] at h
      obtain ⟨q, hq⟩ := h.1
      have hnext := ih h.2 (handle clusterNamespace y.call s).2
      rw [handle_eq_reply hq] at hnext
      change (replay _ (handle clusterNamespace y.call s).2 rest).responses = _
      rw [handle_eq_reply hq, hnext, List.drop_drop, List.length_cons, Nat.add_comm]

/-- A call that does not fail has a request. -/
theorem exists_request_of_success (ht : p.transcript (handle clusterNamespace) s = before ++ x :: after)
    (hx : x.failure? = none) (hcall : x.call ≠ .health) :
    ∃ q, request clusterNamespace x.call = .ok q := by
  have hreply := reply_of_transcript ht
  cases hq : request clusterNamespace x.call with
  | ok q => exact ⟨q, rfl⟩
  | error o =>
      unfold handle at hreply
      rw [hq] at hreply
      unfold Exchange.failure? at hx
      rw [hreply, Call.failure?_failed hcall] at hx
      contradiction

/-- A call that succeeded was sent as a request, unless it asked for the health. -/
theorem exists_requests_of_success
    (ht : p.transcript (handle clusterNamespace) s = before ++ after)
    (h : ∀ y ∈ before, y.failure? = none ∧ y.call ≠ .health) :
    ∀ y ∈ before, ∃ q, request clusterNamespace y.call = .ok q := by
  intro y hy
  obtain ⟨front, back, rfl⟩ := List.append_of_mem hy
  rw [List.append_assoc] at ht
  exact exists_request_of_success ht (h y hy).1 (h y hy).2

/-- The answer to a call is read from the response to its request. -/
theorem reply_of_sent (ht : p.transcript (handle clusterNamespace) s = before ++ x :: after)
    (hbefore : ∀ y ∈ before, ∃ q, request clusterNamespace y.call = .ok q)
    (hq : request clusterNamespace x.call = .ok q) :
    x.reply = reply (s.responseAt before.length) x.call := by
  rw [reply_of_transcript ht, handle_eq_reply hq]
  unfold responseAt
  rw [responses_replay hbefore, List.getElem?_drop, Nat.add_zero]

/-! ### What was sent -/

/-- The request of a call in a transcript, if it has one. -/
def requestOf (clusterNamespace : String) (x : Exchange) : Option Request :=
  (request clusterNamespace x.call).toOption

/-- The request of a call is the one that is built for it. -/
theorem requestOf_eq_some_iff :
    requestOf clusterNamespace x = some q ↔ request clusterNamespace x.call = .ok q := by
  unfold requestOf
  cases request clusterNamespace x.call <;> simp [Except.toOption]

/-- Each request that was sent is the request of a call. -/
theorem split_of_sent {earlier later : List Request} (hs : s.sent = [])
    (h : (p.run (handle clusterNamespace) s).2.sent = earlier ++ q :: later) :
    ∃ before x after, p.transcript (handle clusterNamespace) s = before ++ x :: after ∧
      before.filterMap (requestOf clusterNamespace) = earlier ∧
      request clusterNamespace x.call = .ok q ∧
      after.filterMap (requestOf clusterNamespace) = later := by
  rw [sent_run, hs, List.nil_append] at h
  obtain ⟨front, back, ht, hfront, hback⟩ := List.filterMap_eq_append_iff.1 h
  obtain ⟨silent, x, after, rfl, hsilent, hx, hafter⟩ := List.filterMap_eq_cons_iff.1 hback
  refine ⟨front ++ silent, x, after, by rw [ht, List.append_assoc], ?_,
    requestOf_eq_some_iff.1 hx, hafter⟩
  have hnone : silent.filterMap (requestOf clusterNamespace) = [] :=
    List.filterMap_eq_nil_iff.2 hsilent
  rw [List.filterMap_append, hnone, List.append_nil]
  exact hfront

/-- The request of each call was sent, in its place. -/
theorem sent_of_split (hs : s.sent = [])
    (ht : p.transcript (handle clusterNamespace) s = before ++ x :: after)
    (hx : request clusterNamespace x.call = .ok q) :
    (p.run (handle clusterNamespace) s).2.sent =
      before.filterMap (requestOf clusterNamespace) ++
        q :: after.filterMap (requestOf clusterNamespace) := by
  rw [sent_run, hs, List.nil_append, ht]
  change (before ++ x :: after).filterMap (requestOf clusterNamespace) = _
  rw [List.filterMap_append, List.filterMap_cons_some (requestOf_eq_some_iff.2 hx)]

/-- Calls with requests send one each. -/
theorem forall₂_requests {t : List Exchange}
    (h : ∀ y ∈ t, ∃ q, request clusterNamespace y.call = .ok q) :
    List.Forall₂ (fun y q => request clusterNamespace y.call = .ok q) t
      (t.filterMap (requestOf clusterNamespace)) := by
  induction t with
  | nil => exact .nil
  | cons y rest ih =>
      rw [List.forall_mem_cons] at h
      obtain ⟨q, hq⟩ := h.1
      rw [List.filterMap_cons_some (requestOf_eq_some_iff.2 hq)]
      exact .cons hq (ih h.2)

/-- If every call has a request, there are as many requests as calls. -/
theorem length_requests {t : List Exchange}
    (h : ∀ y ∈ t, ∃ q, request clusterNamespace y.call = .ok q) :
    (t.filterMap (requestOf clusterNamespace)).length = t.length :=
  (forall₂_requests h).length_eq.symm

end

end Script

end Api

end Stevedore
