import Stevedore.Proofs.Adapter.Actions
import Stevedore.Proofs.Backend.Addresses
import Stevedore.Proofs.Backend.Responses
import Mathlib.Data.List.Forall2
/-!
# A store stands for a cluster

If the server of a cluster responds with what a store answers, the backend behind its API gives the
answers of the store. This is shown for one call; what a program does depends on the answers alone, so it
carries over to programs and to sequences of operations. Each call is one request, in the order of the
calls.

Main definitions:

- `Rehearsed`: responses stand for the answers of a transcript, one for each call.
- `Program.transcriptEach`: the transcript of programs one after the other.

Main results:

- Theorem `handle_of_encodes`: one call.
- Theorem `run_rehearsed`: a program.
- Theorem `store_stands_for_cluster`: every call and every sequence of operations.
- Theorem `store_answers_where_uri_is_refused`: names that do not fit into a URI are refused by the
  backend behind the API alone.
-/

namespace Stevedore

open Backend Cluster Api

/-! ## Transcripts of sequences -/

/-- The calls of programs that run one after the other with their answers, in order. -/
def Program.transcriptEach (handler : Handler σ) : List (Program α) → σ → List Exchange
  | [], _ => []
  | p :: rest, s => p.transcript handler s ++ transcriptEach handler rest (p.run handler s).2

/-- The calls that operations make on a store with their answers, in order. -/
def Backend.Store.exchanges (s : Store) (actions : List Adapter.Action) : List Exchange :=
  Program.transcriptEach handle (actions.map (·.program)) s

namespace Api

/-! ## One call -/

section

variable {clusterNamespace : String}

/-- A response that stands for an answer is exchanged for one request. -/
theorem handle_of_encodes (hnamespace : clusterNamespace.toList.all Uri.isPathChar)
    {call : Call} (haddressed : Addressed clusterNamespace call) {answer : call.Reply}
    {response : Response} (hresponse : Encodes call answer response) (rest : List Response)
    (sent : List Request) :
    ∃ r, request clusterNamespace call = .ok r ∧
      Script.handle clusterNamespace call ⟨response :: rest, sent⟩ =
        (answer, ⟨rest, sent ++ [r]⟩) := by
  obtain ⟨r, hrequest, -⟩ := request_of_addressed hnamespace haddressed
  refine ⟨r, hrequest, ?_⟩
  unfold Script.handle
  rw [hrequest]
  simp only [Script.exchange, reply_of_encodes hresponse]

/-! ## Programs -/

/-- The responses stand for the answers of a transcript, one for each call. -/
def Rehearsed (t : List Exchange) (responses : List Response) : Prop :=
  List.Forall₂ (fun x response => Encodes x.call x.reply response) t responses

/-- The requests are those of the calls of a transcript, one for each call. -/
def Requested (clusterNamespace : String) (t : List Exchange) (requests : List Request) : Prop :=
  List.Forall₂ (fun x r => request clusterNamespace x.call = .ok r) t requests

/-- For every transcript there are responses that stand for its answers. -/
theorem exists_rehearsed (t : List Exchange) : ∃ responses, Rehearsed t responses := by
  induction t with
  | nil => exact ⟨[], .nil⟩
  | cons x rest ih =>
      obtain ⟨response, hresponse⟩ := exists_encodes x.call x.reply
      obtain ⟨responses, hresponses⟩ := ih
      exact ⟨response :: responses, .cons hresponse hresponses⟩

/-- A program that gets the answers of another backend ends as it does there. -/
theorem run_rehearsed (hnamespace : clusterNamespace.toList.all Uri.isPathChar)
    {handler : Handler σ} {p : Program α} {s : σ} {responses : List Response}
    (haddressed : ∀ x ∈ p.transcript handler s, Addressed clusterNamespace x.call)
    (hresponses : Rehearsed (p.transcript handler s) responses) (rest : List Response)
    (sent : List Request) :
    ∃ requests, Requested clusterNamespace (p.transcript handler s) requests ∧
      p.run (Script.handle clusterNamespace) ⟨responses ++ rest, sent⟩ =
        ((p.run handler s).1, ⟨rest, sent ++ requests⟩) := by
  induction p generalizing s responses sent with
  | done a =>
      cases hresponses
      exact ⟨[], .nil, by simp⟩
  | fail e =>
      cases hresponses
      exact ⟨[], .nil, by simp⟩
  | call c next ih =>
      rw [Program.transcript_call, List.forall_mem_cons] at haddressed
      cases hresponses with
      | @cons _ response _ more hresponse hmore =>
          obtain ⟨r, hrequest, hhandle⟩ :=
            handle_of_encodes hnamespace haddressed.1 hresponse (more ++ rest) sent
          obtain ⟨requests, hrequests, hrun⟩ := ih (handler c s).1 haddressed.2 hmore (sent ++ [r])
          refine ⟨r :: requests, .cons hrequest hrequests, ?_⟩
          rw [List.cons_append, Program.run_call, hhandle, hrun]
          simp

/-- Programs one after the other that get the answers of another backend end as they do there. -/
theorem runEach_rehearsed (hnamespace : clusterNamespace.toList.all Uri.isPathChar)
    {handler : Handler σ} {programs : List (Program α)} {s : σ} {responses : List Response}
    (haddressed : ∀ x ∈ Program.transcriptEach handler programs s, Addressed clusterNamespace x.call)
    (hresponses : Rehearsed (Program.transcriptEach handler programs s) responses)
    (rest : List Response) (sent : List Request) :
    ∃ requests, Requested clusterNamespace (Program.transcriptEach handler programs s) requests ∧
      Program.runEach (Script.handle clusterNamespace) programs ⟨responses ++ rest, sent⟩ =
        ((Program.runEach handler programs s).1, ⟨rest, sent ++ requests⟩) := by
  induction programs generalizing s responses sent with
  | nil =>
      cases hresponses
      exact ⟨[], .nil, by simp [Program.runEach]⟩
  | cons p others ih =>
      rw [Program.transcriptEach, List.forall_mem_append] at haddressed
      have hbefore : Rehearsed _ _ := (List.forall₂_take_append _ _ _ hresponses.flip).flip
      have hafter : Rehearsed _ _ := (List.forall₂_drop_append _ _ _ hresponses.flip).flip
      generalize (p.transcript handler s).length = n at hbefore hafter
      obtain ⟨requests, hrequests, hrun⟩ :=
        run_rehearsed hnamespace haddressed.1 hbefore (responses.drop n ++ rest) sent
      obtain ⟨later, hlater, hothers⟩ := ih haddressed.2 hafter (sent ++ requests)
      refine ⟨requests ++ later, List.rel_append hrequests hlater, ?_⟩
      rw [← List.append_assoc, List.take_append_drop] at hrun
      simp only [Program.runEach, hrun, hothers, List.append_assoc]

end

/-! ## The operations of the adapter -/

/-- If the server responds with what a store answers, the backend behind its API gives the answers of
the store: to every call, and throughout every sequence of operations. Each call is one request. -/
theorem store_stands_for_cluster {clusterNamespace : String}
    (hnamespace : clusterNamespace.toList.all Uri.isPathChar) (s : Store) :
    (∀ (call : Call) (response : Response) (rest : List Response) (sent : List Request),
      Addressed clusterNamespace call → Encodes call (Store.handle call s).1 response →
      ∃ r, request clusterNamespace call = .ok r ∧
        Script.handle clusterNamespace call ⟨response :: rest, sent⟩ =
          ((Store.handle call s).1, ⟨rest, sent ++ [r]⟩)) ∧
    (∀ (actions : List Adapter.Action) (responses rest : List Response) (sent : List Request),
      (∀ x ∈ s.exchanges actions, Addressed clusterNamespace x.call) →
      Rehearsed (s.exchanges actions) responses →
      ∃ requests, Requested clusterNamespace (s.exchanges actions) requests ∧
        Program.runEach (Script.handle clusterNamespace) (actions.map (·.program))
            ⟨responses ++ rest, sent⟩ =
          ((s.perform actions).1, ⟨rest, sent ++ requests⟩)) := by
  constructor
  · intro call response rest sent haddressed hresponse
    exact handle_of_encodes hnamespace haddressed hresponse rest sent
  · intro actions responses rest sent haddressed hresponses
    exact runEach_rehearsed hnamespace haddressed hresponses rest sent

/-- A website is created, looked at and removed again. -/
def visit : List Adapter.Action :=
  [.create {} Lifecycle.website, .info {}, .get "web", .destroy (.prompt "web"), .get "web"]

theorem addressed_visit : ∀ x ∈ Store.exchanges {} visit, Addressed "default" x.call := by
  decide +kernel

/-- The five operations of the visit, run against a cluster that answers as the store does: it gets
twelve requests, and every result is that of the store. -/
theorem store_stands_for_cluster_visit :
    ∃ responses requests, Rehearsed (Store.exchanges {} visit) responses ∧
      Program.runEach (Script.handle "default") (visit.map (·.program)) ⟨responses, []⟩ =
        ((Store.perform {} visit).1, ⟨[], requests⟩) ∧ requests.length = 12 := by
  obtain ⟨responses, hresponses⟩ := exists_rehearsed (Store.exchanges {} visit)
  have hnamespace : "default".toList.all Uri.isPathChar := by decide
  obtain ⟨requests, hrequests, hrun⟩ :=
    (store_stands_for_cluster hnamespace {}).2 visit responses [] [] addressed_visit hresponses
  rw [List.append_nil, List.nil_append] at hrun
  refine ⟨responses, requests, hresponses, hrun, ?_⟩
  rw [← List.Forall₂.length_eq hrequests]
  rfl

/-! ## Names that are too long -/

/-- A text has at least as many bytes as characters. -/
theorem length_le_utf8ByteSize (cs : List Char) : cs.length ≤ (String.ofList cs).utf8ByteSize := by
  induction cs with
  | nil => exact Nat.zero_le _
  | cons c rest ih =>
      have hc : 1 ≤ c.utf8Size := c.utf8Size_pos
      rw [String.ofList_cons, String.utf8ByteSize_append, String.utf8ByteSize_singleton,
        List.length_cons]
      omega

/-- Without a URI a deletion fails, and nothing is sent. -/
theorem handle_deleteService_of_tooLong {clusterNamespace name : String} (hname : name ≠ "")
    (hlong : Uri.maxLength < (target clusterNamespace (.deleteService name)).utf8ByteSize)
    (s : Script) :
    Script.handle clusterNamespace (.deleteService name) s =
      (.error (.other "Failed to build request: failed to build request: uri too long"), s) := by
  have hrequest : request clusterNamespace (.deleteService name) = .error (.badUri .tooLong) :=
    request_of_tooLong (fun other h => Option.some.inj h ▸ hname) hlong
  unfold Script.handle
  rw [hrequest]
  rfl

/-- A name of so many letters. -/
def lengthy (n : Nat) : String := String.ofList (List.replicate n 'a')

/-- However long the name is, it has only the characters of a network name. -/
theorem all_isNetworkChar_lengthy (n : Nat) : (lengthy n).toList.all Name.isNetworkChar := by
  rw [lengthy, String.toList_ofList, List.all_eq_true]
  intro c hc
  rw [List.eq_of_mem_replicate hc]
  rfl

/-- The name is as long as one likes. -/
theorem le_utf8ByteSize_lengthy (n : Nat) : n ≤ (lengthy n).utf8ByteSize := by
  have hlength := length_le_utf8ByteSize (List.replicate n 'a')
  rwa [List.length_replicate] at hlength

/-- A name that no URI has room for. -/
def longName : String := lengthy 65500

/-- The server that is yet to confirm the deletion of a network service. -/
def confirming : Script := { responses := [.received 200 confirmation.render] }

/-- The store deletes a network service whose name no URI has room for, or that is in a namespace that
may not stand in a URI. Behind the API the deletion fails without a request, although the server would
confirm it. -/
theorem store_answers_where_uri_is_refused :
    longName ≠ "" ∧ longName.toList.all Name.isNetworkChar ∧
    Store.handle (.deleteService longName) {} = (.ok (), {}) ∧
    Encodes (.deleteService longName) (.ok ()) (.received 200 confirmation.render) ∧
    Script.handle "default" (.deleteService longName) confirming =
      (.error (.other "Failed to build request: failed to build request: uri too long"),
        confirming) ∧
    Script.handle "a b" (.deleteService "web") confirming =
      (.error (.other "Failed to build request: failed to build request: invalid uri character"),
        confirming) := by
  have hsize : 65500 ≤ longName.utf8ByteSize := le_utf8ByteSize_lengthy 65500
  have hname : longName ≠ "" := by
    intro hempty
    rw [hempty, String.utf8ByteSize_empty] at hsize
    omega
  have hlong : Uri.maxLength < (target "default" (.deleteService longName)).utf8ByteSize := by
    have hpath : (collection "default" .services ++ "/").utf8ByteSize = 36 := by decide
    have hquery : ("?" : String).utf8ByteSize = 1 := by decide
    simp only [target, targetParts]
    rw [String.utf8ByteSize_append, String.utf8ByteSize_append, String.utf8ByteSize_append, hpath,
      hquery]
    unfold Uri.maxLength
    omega
  have hstore : ∀ name, Store.handle (.deleteService name) {} = (.ok (), {}) := fun _ => rfl
  have hencodes : ∀ name, Encodes (.deleteService name) (.ok ())
      (.received 200 confirmation.render) :=
    fun _ => ⟨200, confirmation, rfl, isConfirmation_confirmation (), rfl⟩
  exact ⟨hname, all_isNetworkChar_lengthy 65500, hstore longName, hencodes longName,
    handle_deleteService_of_tooLong hname hlong confirming, rfl⟩

end Api

end Stevedore
