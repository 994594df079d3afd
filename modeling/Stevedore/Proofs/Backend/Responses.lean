import Stevedore.Backend.Api
import Stevedore.Proofs.Cluster.Json
import Stevedore.Proofs.Json.Skip
/-!
# Responses that stand for answers

The server says what a backend would have answered: with the object or the list that was asked for, with
a status where something was deleted, or with an error of the class of the failure. Such a response is
read as the answer it stands for. The members of statuses, errors and lists may come in any order and
beside others.

Main definition:

- `Api.Encodes`: the response of the server stands for an answer to a call.

Main results:

- Theorem `reply_of_encodes`: a response is read as the answer that it stands for.
- Theorem `exists_encodes`: for every answer there is a response that stands for it.
-/

namespace Stevedore.Api

open Backend Cluster
open Json (Plain Reads)
open Json.Record (Enters)

/-! ## Errors -/

/-- A member of the body that describes an error. -/
inductive ErrorMember (e : ServerError) : String × Json → Prop
  | status : ErrorMember e ("status", .string e.status)
  | message : ErrorMember e ("message", .string e.message)
  | reason : ErrorMember e ("reason", .string e.reason)
  | code : ErrorMember e ("code", .integer e.code)
  | other {key : String} {j : Json} {room : Nat}
      (hkey : key ∉ ["status", "message", "reason", "code"]) (hj : Plain room j) :
      ErrorMember e (key, j)

/-- The members of the body that describes an error, in any order. -/
structure ErrorMembers (e : ServerError) (members : List (String × Json)) : Prop where
  distinct : (members.map (·.1)).Nodup
  known : ∀ m ∈ members, ErrorMember e m
  complete : ∀ key ∈ ["status", "message", "reason", "code"], key ∈ members.map (·.1)
  code : e.code ≤ 65535

/-- The members of an error may come in any order and among others, and it is read all the same. -/
theorem reads_serverError {e : ServerError} {members : List (String × Json)}
    (h : ErrorMembers e members) : Reads ServerError.record.read (Json.bytes (.object members)) e := by
  let state (seen : List String) : ServerError :=
    { status := if "status" ∈ seen then e.status else ""
      message := if "message" ∈ seen then e.message else ""
      reason := if "reason" ∈ seen then e.reason else ""
      code := if "code" ∈ seen then e.code else 0 }
  have hmembers : ∀ m ∈ members, ∀ seen,
      Enters ServerError.record m.1 m.2.bytes (state seen) (state (m.1 :: seen)) := by
    intro m hm seen
    cases h.known m hm with
    | status =>
        have hstate : state ("status" :: seen) = { state seen with status := e.status } := by
          simp [state]
        rw [hstate]
        exact .known rfl ((Json.reads_string e.status).map _)
    | message =>
        have hstate : state ("message" :: seen) = { state seen with message := e.message } := by
          simp [state]
        rw [hstate]
        exact .known rfl ((Json.reads_string e.message).map _)
    | reason =>
        have hstate : state ("reason" :: seen) = { state seen with reason := e.reason } := by
          simp [state]
        rw [hstate]
        exact .known rfl ((Json.reads_string e.reason).map _)
    | code =>
        have hcode : (UInt16.ofNat e.code).toNat = e.code :=
          UInt16.toNat_ofNat_of_lt' (Nat.lt_succ_of_le h.code)
        have hstate : state ("code" :: seen) =
            { state seen with code := (UInt16.ofNat e.code).toNat } := by
          simp [state, hcode]
        rw [hstate]
        exact .known rfl ((Json.reads_uint16 h.code).map _)
    | @other key j room hkey hj =>
        have hstate : state (key :: seen) = state seen := by
          simp only [List.mem_cons, not_or, List.not_mem_nil, not_false_eq_true, and_true] at hkey
          simp [state, Ne.symm hkey.1, Ne.symm hkey.2.1, Ne.symm hkey.2.2.1, Ne.symm hkey.2.2.2]
        rw [hstate]
        exact .unknown (Json.Record.member?_eq_none hkey) (Json.reads_skipValue hj)
  have hstate : state (members.map (·.1)).reverse = e := by
    have hcomplete : ∀ key ∈ ["status", "message", "reason", "code"],
        key ∈ (members.map (·.1)).reverse := fun key hkey => List.mem_reverse.2 (h.complete key hkey)
    simp only [List.forall_mem_cons] at hcomplete
    simp only [state, hcomplete, if_pos]
  rw [← hstate]
  refine Json.Record.reads_of_states hmembers h.distinct rfl ?_
  exact fun m hm _ => h.complete m.key (List.mem_map_of_mem hm)

/-- The error that the server describes is of the class of the failure and has its message. -/
def Describes (e : ServerError) : BackendError → Prop
  | .notFound message => e.message = message ∧ e.reason = "NotFound" ∧ e.code = 404
  | .alreadyExists message => e.message = message ∧ e.reason = "AlreadyExists" ∧ e.code = 409
  | .other message =>
    e.message = message ∧ e.reason ≠ "NotFound" ∧ e.reason ≠ "AlreadyExists" ∧ e.code ≠ 404

/-- The description of an error is read as the failure it stands for. -/
theorem toBackendError_of_describes {e : ServerError} {failure : BackendError}
    (h : Describes e failure) : e.toBackendError = failure := by
  unfold ServerError.toBackendError
  cases failure with
  | notFound message =>
      obtain ⟨rfl, hreason, -⟩ := h
      rw [if_pos (.inl hreason)]
  | alreadyExists message =>
      obtain ⟨rfl, hreason, hcode⟩ := h
      rw [if_neg (by simp [hreason, hcode]), if_pos hreason]
  | other message =>
      obtain ⟨rfl, hfound, hexists, hcode⟩ := h
      rw [if_neg (by simp [hfound, hcode]), if_neg hexists]

/-! ## Confirmed deletions -/

/-- A member of the details of a status. -/
def DetailMember (m : String × Json) : Prop :=
  m.1 ∈ ["name", "group", "kind", "uid"] ∧ ∃ s, m.2 = .string s

/-- A member of the status that confirms a deletion. -/
inductive StatusMember : String × Json → Prop
  | kind : StatusMember ("kind", .string "Status")
  | outcome : StatusMember ("status", .string "Success")
  | code {n : Nat} (hn : n ≤ 65535) : StatusMember ("code", .integer n)
  | text {key : String} (hkey : key ∈ ["message", "reason"]) (s : String) :
      StatusMember (key, .string s)
  | details {members : List (String × Json)} (h : ∀ m ∈ members, DetailMember m)
      (hdistinct : (members.map (·.1)).Nodup) : StatusMember ("details", .object members)
  | other {key : String} {j : Json}
      (hkey : key ∉ ["kind", "status", "code", "message", "reason", "details"])
      (hj : Plain (Json.maxDepth - 1) j) : StatusMember (key, j)

/-- The members of the status that confirms a deletion, in any order. -/
structure StatusMembers (members : List (String × Json)) : Prop where
  distinct : (members.map (·.1)).Nodup
  known : ∀ m ∈ members, StatusMember m
  complete : "kind" ∈ members.map (·.1)

/-- The members of a status can be skipped by a reader that has no use for them. -/
theorem StatusMember.plain {m : String × Json} (h : StatusMember m) :
    Plain (Json.maxDepth - 1) m.2 := by
  cases h with
  | kind => exact .scalar _ (.string _)
  | outcome => exact .scalar _ (.string _)
  | code hn => exact .scalar _ (.integer ⟨by omega, by omega⟩)
  | text _ s => exact .scalar _ (.string s)
  | details h =>
      refine .object fun m hm => ?_
      obtain ⟨-, s, hs⟩ := h m hm
      rw [hs]
      exact .scalar _ (.string s)
  | other _ hj => exact hj

/-- Such a status says that it is one. -/
theorem StatusMembers.isStatus {members : List (String × Json)} (h : StatusMembers members) :
    isStatus (.object members) = true := by
  obtain ⟨m, hm, hkey⟩ := List.mem_map.1 h.complete
  have hsome : (members.reverse.find? fun m => m.1 == "kind").isSome := by
    rw [List.find?_isSome]
    exact ⟨m, List.mem_reverse.2 hm, by simp [hkey]⟩
  obtain ⟨found, hfound⟩ := Option.isSome_iff_exists.1 hsome
  have hmem : found ∈ members := List.mem_reverse.1 (List.mem_of_find?_eq_some hfound)
  have hkind : found.1 = "kind" := by simpa using List.find?_some hfound
  have hvalue : found.2 = .string "Status" := by
    cases h.known found hmem with
    | kind => rfl
    | outcome => simp at hkind
    | code => simp at hkind
    | @text key hkey =>
        obtain rfl : key = "kind" := hkind
        simp at hkey
    | details => simp at hkind
    | @other key _ hkey =>
        obtain rfl : key = "kind" := hkind
        simp at hkey
  unfold Api.isStatus Json.member?
  simp only [hfound, Option.map_some, hvalue]
  rfl

/-- A member of the details is read without effect. -/
theorem DetailMember.enters {m : String × Json} (h : DetailMember m) :
    Enters statusDetails m.1 m.2.bytes () () := by
  obtain ⟨key, j⟩ := m
  obtain ⟨hkey, s, rfl⟩ := h
  have hread := (Json.reads_string s).map fun _ => ()
  simp only [List.mem_cons, List.not_mem_nil, or_false] at hkey
  rcases hkey with rfl | rfl | rfl | rfl <;> exact .known rfl hread

/-- A member of a status is read without effect. -/
theorem StatusMember.enters {m : String × Json} (h : StatusMember m) :
    Enters statusReport m.1 m.2.bytes () () := by
  cases h with
  | kind => exact .unknown rfl (Json.reads_skipValue (.scalar 0 (.string _)))
  | outcome =>
      have hread : Reads statusSummary (Json.bytes (.string "Success")) () := Json.reads_bareVariant rfl
      exact .known rfl ((hread.optional (Json.notNull_string _)).map fun _ => ())
  | code hn => exact .known rfl ((Json.reads_uint16 hn).map fun _ => ())
  | text hkey s =>
      have hread := (Json.reads_string s).map fun _ => ()
      simp only [List.mem_cons, List.not_mem_nil, or_false] at hkey
      rcases hkey with rfl | rfl <;> exact .known rfl hread
  | details h hdistinct =>
      have hread := Json.Record.reads_unit (fun m hm => (h m hm).enters) hdistinct rfl
      exact .known rfl ((hread.optional (Json.notNull_object _)).map fun _ => ())
  | other hkey hj =>
      refine .unknown (Json.Record.member?_eq_none fun hmem => hkey ?_) (Json.reads_skipValue hj)
      exact List.mem_cons_of_mem _ hmem

/-- Such a status confirms a deletion. -/
theorem decodeDeletion_status (read : Json.Reader α) {members : List (String × Json)}
    (h : StatusMembers members) :
    decodeDeletion read (Json.object members).render = .ok () := by
  have hplain : Plain Json.maxDepth (.object members) :=
    .object fun m hm => (h.known m hm).plain
  have hread := Json.Record.reads_unit (r := statusReport) (fun m hm => (h.known m hm).enters)
    h.distinct rfl
  unfold decodeDeletion
  rw [Json.parse_render hplain]
  simp only [h.isStatus, if_pos]
  exact Json.decodeString_of_reads hread

/-! ## Answers -/

/-- The value is the written object. -/
def IsObject (write : α → Json) (a : α) (j : Json) : Prop := j = write a

/-- The value is a list of the written items. -/
def IsList (write : α → Json) (items : List α) (j : Json) : Prop :=
  ∃ members, ListMembers write items members ∧ j = .object members

/-- The value is a status that confirms a deletion. -/
def IsConfirmation (_ : Unit) (j : Json) : Prop :=
  ∃ members, StatusMembers members ∧ j = .object members

/-- The response describes an error of the class of the failure. -/
def Refuses (failure : BackendError) (response : Response) : Prop :=
  ∃ status e members, isFailure status = true ∧ ErrorMembers e members ∧ Describes e failure ∧
    response = .received status (Json.object members).render

/-- The response stands for a value, or for the failure to give one. -/
def StandsFor (body : α → Json → Prop) : Except BackendError α → Response → Prop
  | .ok a, response =>
    ∃ status j, isFailure status = false ∧ body a j ∧ response = .received status j.render
  | .error failure, response => Refuses failure response

/-- The response says whether the backend is healthy: it lists nodes, or it describes a failure. -/
def StandsForHealth : Bool → Response → Prop
  | true, response => ∃ nodes, StandsFor (IsList Node.toJson) (.ok nodes) response
  | false, response => ∃ failure, Refuses failure response

/-- The response of the server stands for an answer to a call. -/
def Encodes : (call : Call) → call.Reply → Response → Prop
  | .listControllers => StandsFor (IsList Controller.toJson)
  | .getController _ => StandsFor (IsObject Controller.toJson)
  | .createController _ => StandsFor (IsObject Controller.toJson)
  | .updateController _ => StandsFor (IsObject Controller.toJson)
  | .deleteController _ => StandsFor IsConfirmation
  | .listPods _ => StandsFor (IsList Pod.toJson)
  | .createService _ => StandsFor (IsObject NetworkService.toJson)
  | .listServices _ => StandsFor (IsList NetworkService.toJson)
  | .deleteService _ => StandsFor IsConfirmation
  | .health => StandsForHealth

/-! ### Reading a response -/

/-- A response that refuses a call is read as the failure it stands for. -/
theorem readResponse_of_refuses (decode : String → Except Json.ReadError α) {failure : BackendError}
    {response : Response} (h : Refuses failure response) :
    readResponse decode response = .error failure := by
  obtain ⟨status, e, members, hstatus, hmembers, hdescribes, rfl⟩ := h
  have hbody : ServerError.ofBody status (Json.object members).render = e := by
    unfold ServerError.ofBody
    rw [Json.decodeString_of_reads (reads_serverError hmembers)]
  simp only [readResponse, if_pos hstatus, hbody, toBackendError_of_describes hdescribes]

/-- A response that stands for an answer is read as this answer. -/
theorem readResponse_of_standsFor {decode : String → Except Json.ReadError α}
    {body : α → Json → Prop} (hdecode : ∀ a j, body a j → decode j.render = .ok a)
    {answer : Except BackendError α} {response : Response} (h : StandsFor body answer response) :
    readResponse decode response = answer := by
  cases answer with
  | ok a =>
      obtain ⟨status, j, hstatus, hbody, rfl⟩ := h
      simp only [readResponse, hstatus, hdecode a j hbody]
      rfl
  | error failure => exact readResponse_of_refuses decode h

/-- The JSON of an object is decoded as the object. -/
theorem decode_isObject {read : Json.Reader α} {write : α → Json}
    (h : Json.ReadsBack read write) (a : α) (j : Json) (hj : IsObject write a j) :
    Json.decodeString read j.render = .ok a := by
  rw [hj]
  exact Json.decodeString_of_reads (h a).1

/-- A list of objects is decoded as these objects, whatever else it says of itself. -/
theorem decode_isList {read : Json.Reader α} {write : α → Json}
    (h : Json.ReadsBack read write) (items : List α) (j : Json) (hj : IsList write items j) :
    Json.decodeString (listing read).read j.render = .ok items := by
  obtain ⟨members, hmembers, rfl⟩ := hj
  exact Json.decodeString_of_reads (reads_listing h hmembers)

/-- A confirmation is decoded as a success. -/
theorem decode_isConfirmation (read : Json.Reader α) (u : Unit) (j : Json)
    (hj : IsConfirmation u j) : decodeDeletion read j.render = .ok u := by
  obtain ⟨members, hmembers, rfl⟩ := hj
  exact decodeDeletion_status read hmembers

/-- A response is read as the answer that it stands for. -/
theorem reply_of_encodes {call : Call} {answer : call.Reply} {response : Response}
    (h : Encodes call answer response) : reply response call = answer := by
  cases call with
  | listControllers => exact readResponse_of_standsFor (decode_isList Controller.readsBack) h
  | getController name => exact readResponse_of_standsFor (decode_isObject Controller.readsBack) h
  | createController c => exact readResponse_of_standsFor (decode_isObject Controller.readsBack) h
  | updateController c => exact readResponse_of_standsFor (decode_isObject Controller.readsBack) h
  | deleteController name => exact readResponse_of_standsFor (decode_isConfirmation _) h
  | listPods selector => exact readResponse_of_standsFor (decode_isList Pod.readsBack) h
  | createService v => exact readResponse_of_standsFor (decode_isObject NetworkService.readsBack) h
  | listServices selector => exact readResponse_of_standsFor (decode_isList NetworkService.readsBack) h
  | deleteService name => exact readResponse_of_standsFor (decode_isConfirmation _) h
  | health =>
      cases answer with
      | true =>
          obtain ⟨nodes, hnodes⟩ := h
          have hread : readListing Node.record.read response = .ok nodes :=
            readResponse_of_standsFor (decode_isList Node.readsBack) hnodes
          unfold reply
          rw [hread]
      | false =>
          obtain ⟨failure, hfailure⟩ := h
          have hread : readListing Node.record.read response = .error failure :=
            readResponse_of_refuses _ hfailure
          unfold reply
          rw [hread]

/-! ### Every answer has a response -/

/-- An error of the class of a failure. -/
def describe : BackendError → ServerError
  | .notFound message => { status := "Failure", message, reason := "NotFound", code := 404 }
  | .alreadyExists message => { status := "Failure", message, reason := "AlreadyExists", code := 409 }
  | .other message => { status := "Failure", message, reason := "InternalError", code := 500 }

/-- A response that describes a failure. -/
def refusal (failure : BackendError) : Response :=
  let e := describe failure
  .received e.code (Json.object [("status", .string e.status), ("message", .string e.message),
    ("reason", .string e.reason), ("code", .integer e.code)]).render

/-- Every failure has a response that refuses with it. -/
theorem refuses_refusal (failure : BackendError) : Refuses failure (refusal failure) := by
  let e := describe failure
  have hstatus : isFailure e.code = true := by
    cases failure <;> rfl
  have hdescribes : Describes e failure ∧ e.code ≤ 65535 := by
    cases failure <;> simp [e, describe, Describes]
  refine ⟨e.code, e, _, hstatus, ⟨by simp, fun m hm => ?_, by simp, hdescribes.2⟩,
    hdescribes.1, rfl⟩
  simp only [List.mem_cons, List.not_mem_nil, or_false] at hm
  rcases hm with rfl | rfl | rfl | rfl
  · exact .status
  · exact .message
  · exact .reason
  · exact .code

/-- Every answer has a response that stands for it. -/
theorem exists_standsFor {body : α → Json → Prop} (h : ∀ a, ∃ j, body a j)
    (answer : Except BackendError α) : ∃ response, StandsFor body answer response := by
  cases answer with
  | ok a =>
      obtain ⟨j, hj⟩ := h a
      exact ⟨_, 200, j, by decide, hj, rfl⟩
  | error failure => exact ⟨_, refuses_refusal failure⟩

theorem exists_isObject (write : α → Json) (a : α) : ∃ j, IsObject write a j := ⟨write a, rfl⟩

theorem exists_isList (kind : String) (write : α → Json) (items : List α) :
    ∃ j, IsList write items j := by
  obtain ⟨members, hlisting, hmembers⟩ := listMembers_listingToJson kind write items
  exact ⟨.object members, members, hmembers, rfl⟩

/-- A status that confirms a deletion. -/
def confirmation : Json := .object [("kind", .string "Status"), ("status", .string "Success")]

/-- The plain confirmation is one. -/
theorem isConfirmation_confirmation (u : Unit) : IsConfirmation u confirmation := by
  refine ⟨_, ⟨by simp, fun m hm => ?_, by simp⟩, rfl⟩
  simp only [List.mem_cons, List.not_mem_nil, or_false] at hm
  rcases hm with rfl | rfl
  · exact .kind
  · exact .outcome

theorem exists_isConfirmation (u : Unit) : ∃ j, IsConfirmation u j :=
  ⟨confirmation, isConfirmation_confirmation u⟩

/-- For every answer there is a response that stands for it. -/
theorem exists_encodes (call : Call) (answer : call.Reply) :
    ∃ response, Encodes call answer response := by
  cases call with
  | listControllers => exact exists_standsFor (exists_isList Controller.kind _) answer
  | getController name => exact exists_standsFor (exists_isObject _) answer
  | createController c => exact exists_standsFor (exists_isObject _) answer
  | updateController c => exact exists_standsFor (exists_isObject _) answer
  | deleteController name => exact exists_standsFor exists_isConfirmation answer
  | listPods selector => exact exists_standsFor (exists_isList Pod.kind _) answer
  | createService v => exact exists_standsFor (exists_isObject _) answer
  | listServices selector => exact exists_standsFor (exists_isList NetworkService.kind _) answer
  | deleteService name => exact exists_standsFor exists_isConfirmation answer
  | health =>
      cases answer with
      | true =>
          obtain ⟨response, hresponse⟩ :=
            exists_standsFor (exists_isList Node.kind Node.toJson) (.ok [])
          exact ⟨response, [], hresponse⟩
      | false => exact ⟨_, _, refuses_refusal (.other "")⟩

end Stevedore.Api
