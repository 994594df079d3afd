import Stevedore.Proofs.Adapter.Reachable
import Stevedore.Proofs.Backend.Addresses
import Stevedore.Proofs.Http.Front
import Stevedore.Proofs.Lifecycle.RemovalOfCreated
import Mathlib.Data.List.TakeWhile
/-!
# Using the ids that a creation returns

The records in the response to a creation tell the ids of the deployments. Under such an id a deployment
is shown with the same record, and it can be removed, which leaves the others. The id may be empty,
though, and then no path leads to the deployment: it can neither be shown nor removed.

Main definitions:

- `Request.IsAt`: the id of a deployment stands in the path of a request as it is.
- `Shows` and `Misses`: the response to a request to show a deployment.
- `Usable`: the deployment can be shown and removed by its id.
- `Recorded`: a record is that of a stored deployment.

Main results:

- Theorem `usable_of_recorded`: what is recorded under an id can be used.
- Theorem `created_of_respond`: what was done when a creation is answered with success.
- Theorem `usable_of_created`: the ids that it returns.
- Theorem `unusable_of_created`: the empty id.
-/

namespace Stevedore

open Backend Cluster Program

/-! ## Deployments in a store -/

namespace Adapter

variable {s : Store} {id : String}

/-- A deployment that awaits its pods is found. -/
theorem run_get_of_awaits (hs : ∀ op, s.errors op = none) {c : Controller} (hc : c.Awaits)
    (hfound : s.controller? id = some c) :
    (Action.get id).program.run Store.handle s = (.ok (.found ⟨id, "pending"⟩), s) := by
  have hname : c.nameOrEmpty = id := Controller.nameOrEmpty_of_name (Store.name_of_controller? hfound)
  rw [(Store.run_handle hs _).1]
  unfold Action.program Adapter.get
  rw [run_bind, run_bind, Store.run_getController_of_stored hfound]
  simp only [hc.recordOf_eq, run_done, hname]

/-- Showing a deployment that is not stored fails with the name that was asked for. -/
theorem run_get_of_not_stored (hs : ∀ op, s.errors op = none) (h : ¬ s.HasController id) :
    (Action.get id).program.run Store.handle s =
      (.error (.error (.notFound (Store.controllerNotFound id).message)), s) := by
  rw [(Store.run_handle hs _).1]
  unfold Action.program Adapter.get
  rw [run_bind, run_bind, Store.run_getController_of_not_stored h]
  rfl

/-- The removal of a stored deployment leaves the store without it. -/
theorem run_destroy_of_stored (hs : ∀ op, s.errors op = none) (hdistinct : s.DistinctNames)
    {r : Removal} (hends : r.Ends) (h : s.HasController r.id) :
    ∃ left, (Action.destroy r).program.run Store.handle s = (.ok .destroyed, left) ∧
      Store.SameButPods (s.without [r.id]) left := by
  refine ⟨_, ?_, r.sameButPods_run hdistinct⟩
  have hok := r.run_fst hends hdistinct
  rw [if_pos h] at hok
  rw [(Store.run_handle hs _).1]
  change (r.program >>= fun _ => done Answer.destroyed).run Store.answer s = _
  refine Prod.ext ?_ (run_bind_done_snd Store.answer r.program _ s)
  rw [run_bind_done_fst, hok]
  rfl

end Adapter

namespace Http

open Adapter
open Text (StandsForItself)

/-! ## Requests at an id -/

/-- The request is for the deployment with an id, which stands in its path as it is. -/
def Request.IsAt (r : Request) (id : String) : Prop :=
  r.uri.path = (Resource.deployment id.toList).path

section

variable {config : Config} {clock : Clock config.pollInterval.toNanos} {r : Request} {id : String}

/-- There is nothing at the empty id. -/
theorem respond_at_empty (h : r.IsAt "") : respond config clock r = .done notFound := by
  have hpath : Resource.ofPath? (Resource.deployment "".toList).path = none := by decide
  unfold respond
  rw [h, hpath]

/-- A request for an id that stands for itself shows this deployment. -/
theorem respond_get_at (hid : StandsForItself id) (hmethod : r.method = "GET") (h : r.IsAt id) :
    respond config clock r = answering (Action.get id).program success :=
  respond_of_asksFor (.get hmethod h hid.segment (idOf_of_standsForItself hid))

/-- A request to delete an id that stands for itself removes this deployment. -/
theorem respond_delete_at (hid : StandsForItself id) (hmethod : r.method = "DELETE") (h : r.IsAt id) :
    respond config clock r = answering (Action.destroy ⟨config, clock, id⟩).program success :=
  respond_of_asksFor (.destroy hmethod h hid.segment (idOf_of_standsForItself hid))

end

/-- The text with which an id is written into a URI. -/
def addressOf (id : String) : String := "/v1/services/" ++ id

/-- Unless it is too long, the id can be written into a URI as it is. -/
theorem exists_uri_of_isNetworkChar {id : String} (hid : id.toList.all Name.isNetworkChar)
    (hshort : (addressOf id).utf8ByteSize ≤ Uri.maxLength) :
    ∃ uri, Uri.parse (addressOf id) = .ok uri ∧
      uri.path = (Resource.deployment id.toList).path := by
  let path : List Char := (Resource.deployment id.toList).path
  have htext : (addressOf id).toList = path := by
    unfold addressOf
    rw [String.toList_append]
    rfl
  have hchars : path.all Uri.isPathChar := by
    have hroot : "/v1/services/".toList.all Uri.isPathChar := by decide
    change ("/v1/services/".toList ++ id.toList).all Uri.isPathChar
    rw [List.all_append, hroot, Bool.true_and, List.all_eq_true]
    rw [List.all_eq_true] at hid
    exact fun c hc => Name.isPathChar_of_isNetworkChar (hid c hc)
  have htarget : Uri.parseTarget false (path ++ []) = .ok (path ++ []) :=
    Uri.parseTarget_path hchars rfl
  rw [List.append_nil, ← htext] at htarget
  obtain ⟨rest, hrest⟩ : ∃ rest, path = '/' :: rest := ⟨_, rfl⟩
  refine ⟨_, Uri.parse_of_parseTarget (htext.trans hrest) hshort htarget, ?_⟩
  have hwhole : path.takeWhile (· != '?') = path := by
    rw [List.takeWhile_eq_self_iff]
    intro c hc
    have hne : c ≠ '?' := by
      rintro rfl
      exact absurd (List.all_eq_true.1 hchars '?' hc) (by decide)
    simpa using hne
  unfold Uri.path
  rw [htext, hwhole, hrest]
  exact hrest.symm

/-! ## Shown deployments -/

/-- Requests to show the deployment are answered with its record, and change nothing. -/
def Shows (config : Config) (s : Store) (d : DeploymentRecord) : Prop :=
  ∀ (clock : Clock config.pollInterval.toNanos) (r : Request), r.method = "GET" → r.IsAt d.id →
    ∃ response, (respond config clock r).run Store.handle s = (.ok response, s) ∧
      response.status = 200 ∧ Json.decodeString DeploymentRecord.record.read response.body = .ok d

/-- Requests to show the deployment with the id are answered that it is not there. -/
def Misses (config : Config) (s : Store) (id : String) : Prop :=
  ∀ (clock : Clock config.pollInterval.toNanos) (r : Request), r.method = "GET" → r.IsAt id →
    ∃ response, (respond config clock r).run Store.handle s = (.ok response, s) ∧
      response.status = 404

/-- The deployment is shown with its record. If it is removed, it is no longer there, but the other ones
of its batch are. -/
structure Usable (config : Config) (s : Store) (batch : List DeploymentRecord)
    (d : DeploymentRecord) : Prop where
  shown : Shows config s d
  removed : ∀ (clock : Clock config.pollInterval.toNanos) (r : Request), r.method = "DELETE" →
    r.IsAt d.id → Removal.Ends ⟨config, clock, d.id⟩ →
    ∃ response left, (respond config clock r).run Store.handle s = (.ok response, left) ∧
      response.status = 204 ∧ Misses config left d.id ∧
      ∀ other ∈ batch, other ≠ d → other.id ≠ "" → Shows config left other

/-- The record is that of a stored deployment that awaits its pods, and has the characters of a name of
network objects. -/
structure Recorded (s : Store) (d : DeploymentRecord) : Prop where
  state : d.state = "pending"
  chars : d.id.toList.all Name.isNetworkChar
  stored : ∃ c ∈ s.controllers, c.Awaits ∧ c.metadata.name = some d.id

section

variable {config : Config} {s : Store} {d : DeploymentRecord}

/-- A recorded deployment is pending. -/
theorem Recorded.eq (h : Recorded s d) : d = ⟨d.id, "pending"⟩ := by
  rw [← h.state]

/-- A recorded deployment has a controller under its id. -/
theorem Recorded.hasController (h : Recorded s d) : s.HasController d.id := by
  obtain ⟨c, hc, -, hname⟩ := h.stored
  exact ⟨c, hc, hname⟩

/-- The removal of another deployment does not touch it. -/
theorem Recorded.without (h : Recorded s d) {id : String} (hne : d.id ≠ id) {left : Store}
    (hleft : Store.SameButPods (s.without [id]) left) : Recorded left d where
  state := h.state
  chars := h.chars
  stored := by
    obtain ⟨c, hc, hawaits, hname⟩ := h.stored
    refine ⟨c, ?_, hawaits, hname⟩
    rw [hleft.controllers_eq, Store.mem_controllers_without_iff]
    simpa [hc, hname] using hne

/-- A recorded deployment is shown under its id. -/
theorem shows_of_recorded (hs : ∀ op, s.errors op = none) (hdistinct : s.DistinctNames)
    (h : Recorded s d) (hid : d.id ≠ "") : Shows config s d := by
  intro clock r hmethod hat
  obtain ⟨c, hc, hawaits, hname⟩ := h.stored
  have hself := Text.standsForItself_of_isNetworkChar hid h.chars
  refine ⟨success (.found d), ?_, reports_success (.found d)⟩
  rw [respond_get_at hself hmethod hat, run_answering,
    run_get_of_awaits hs hawaits (Store.controller?_of_mem hdistinct hc hname), ← h.eq]
  rfl

/-- What is not stored is not found under its id. -/
theorem misses_of_not_stored (hs : ∀ op, s.errors op = none) {id : String}
    (h : ¬ s.HasController id) (hid : StandsForItself id) : Misses config s id := by
  intro clock r hmethod hat
  let e : Error := .notFound (Store.controllerNotFound id).message
  refine ⟨(ApiError.adapter e).response, ?_, (reportsError_response e).1⟩
  rw [respond_get_at hid hmethod hat, run_answering, run_get_of_not_stored hs h]
  rfl

/-- What is recorded under an id that is not empty can be used. -/
theorem usable_of_recorded (hs : ∀ op, s.errors op = none) (hdistinct : s.DistinctNames)
    {batch : List DeploymentRecord} (hbatch : ∀ d ∈ batch, Recorded s d) (hd : d ∈ batch)
    (hid : d.id ≠ "") : Usable config s batch d := by
  refine ⟨shows_of_recorded hs hdistinct (hbatch d hd) hid, fun clock r hmethod hat hends => ?_⟩
  have hself := Text.standsForItself_of_isNetworkChar hid (hbatch d hd).chars
  obtain ⟨left, hremoved, hleft⟩ :=
    run_destroy_of_stored hs hdistinct hends (hbatch d hd).hasController
  change Store.SameButPods (s.without [d.id]) left at hleft
  have hlefterrors : ∀ op, left.errors op = none := by
    rw [hleft.errors_eq]
    exact hs
  have hgone : ¬ left.HasController d.id := by
    rw [hleft.hasController_iff, Store.hasController_without_iff]
    simp
  refine ⟨success .destroyed, left, ?_, rfl, misses_of_not_stored hlefterrors hgone hself, ?_⟩
  · rw [respond_delete_at hself hmethod hat, run_answering, hremoved]
    rfl
  · intro other hother hne hotherid
    have hids : other.id ≠ d.id := by
      intro heq
      apply hne
      calc other = ⟨other.id, "pending"⟩ := (hbatch other hother).eq
        _ = ⟨d.id, "pending"⟩ := by rw [heq]
        _ = d := (hbatch d hd).eq.symm
    have hkept := (hbatch other hother).without hids hleft
    exact shows_of_recorded hlefterrors (hleft.distinctNames (hdistinct.without [d.id])) hkept
      hotherid

end

/-! ## Creations -/

section

variable {config : Config} {clock : Clock config.pollInterval.toNanos} {r : Request}
  {response : Response}

/-- When a creation is answered with success, a batch was created, and the response tells its records. -/
theorem created_of_respond {handler : Handler σ} {s t : σ} (hmethod : r.method = "POST")
    (hpath : r.uri.path = Resource.deployments.path)
    (hrun : (respond config clock r).run handler s = (.ok response, t))
    (hstatus : response.status = 201) :
    ∃ batch records, (Lifecycle.create config batch).run handler s = (.ok records, t) ∧
      response = success (.created records) := by
  have hadmitted : ¬ ∃ status fixed, TurnedAway r status fixed ∧ status ≠ 201 := by
    rintro ⟨status, fixed, haway, hother⟩
    rw [respond_of_turnedAway haway, run_done, Prod.mk.injEq, Except.ok.injEq] at hrun
    obtain ⟨rfl, -⟩ := hrun
    exact hother (haway.status_eq.symm.trans hstatus)
  have hsize : r.body.length ≤ 2097152 := by
    rw [← Nat.not_lt]
    intro hlong
    exact hadmitted ⟨_, _, .oversized hmethod hpath hlong, by decide⟩
  cases hbody : Json.decode Service.readList (.ofBytes r.body) with
  | error e => exact absurd ⟨_, _, .body hmethod hpath hsize hbody, by decide⟩ hadmitted
  | ok batch =>
      rw [respond_of_asksFor (.create hmethod hpath hsize hbody), run_answering, Prod.mk.injEq] at hrun
      obtain ⟨houtcome, hleft⟩ := hrun
      change answered success ((Adapter.create config batch >>= fun records =>
        done (Answer.created records)).run handler s).1 = _ at houtcome
      change ((Adapter.create config batch >>= fun records =>
        done (Answer.created records)).run handler s).2 = _ at hleft
      rw [run_bind_done_fst] at houtcome
      rw [run_bind_done_snd] at hleft
      refine ⟨batch, ?_⟩
      change ∃ records, (Adapter.create config batch).run handler s = _ ∧ _
      cases hcreated : ((Adapter.create config batch).run handler s).1 with
      | ok records =>
          rw [hcreated] at houtcome
          exact ⟨records, Prod.ext hcreated hleft, (Except.ok.inj houtcome).symm⟩
      | error failure =>
          rw [hcreated] at houtcome
          cases failure with
          | crash => nomatch houtcome
          | error e =>
              obtain rfl := Except.ok.inj houtcome
              have hfailed : ∀ k : ErrorKind, k.statusCode ≠ 201 := by
                intro k
                cases k <;> decide
              exact absurd ((reportsError_response e).1.symm.trans hstatus) (hfailed e.kind)

/-- The ids of a batch that was created in memory. They are different. Unless it is empty, an id can be
used to show and to remove its deployment, and unless it is too long, it can be written into a URI. At
the empty id there is nothing. -/
theorem usable_of_created {s t : Store} (hs : ∀ op, s.errors op = none) (hdistinct : s.DistinctNames)
    (hmethod : r.method = "POST") (hpath : r.uri.path = Resource.deployments.path)
    (hrun : (respond config clock r).run Store.handle s = (.ok response, t))
    (hstatus : response.status = 201) :
    ∃ records,
      Json.decodeString (Json.readList DeploymentRecord.record.read) response.body = .ok records ∧
      (records.map (·.id)).Nodup ∧
      ∀ d ∈ records,
        (d.id ≠ "" → Usable config t records d ∧
          ((addressOf d.id).utf8ByteSize ≤ Uri.maxLength →
            ∃ uri, Uri.parse (addressOf d.id) = .ok uri ∧
              uri.path = (Resource.deployment d.id.toList).path)) ∧
        (d.id = "" → ∀ (clock : Clock config.pollInterval.toNanos) (r : Request), r.IsAt d.id →
          respond config clock r = .done notFound) := by
  obtain ⟨batch, records, hcreated, rfl⟩ := created_of_respond hmethod hpath hrun hstatus
  have htdistinct : t.DistinctNames := by
    have hafter := Store.distinctNames_run (Lifecycle.create config batch) hdistinct
    rwa [hcreated] at hafter
  rw [(Store.run_handle hs _).1] at hcreated
  obtain ⟨services, hresolve, hrecords, ht⟩ := Lifecycle.created_of_run_eq_ok hcreated
  have hterrors : ∀ op, t.errors op = none := by
    rw [ht]
    exact hs
  have hrecorded : ∀ d ∈ records, Recorded t d := by
    intro d hd
    rw [hrecords] at hd
    obtain ⟨b, hb, rfl⟩ := List.mem_map.1 hd
    refine ⟨rfl, (Name.isNetworkName_sanitize b.name).1, Workload.unobserved b, ?_,
      ⟨b, rfl⟩, rfl⟩
    rw [ht]
    exact List.mem_append_right _ (List.mem_map_of_mem hb)
  have hids : (records.map (·.id)).Nodup := by
    have hnames := (Exposure.unambiguous_of_resolve hresolve).names_nodup
    rw [hrecords, List.map_map]
    exact hnames
  refine ⟨records, (reports_success (.created records)).2, hids, fun d hd => ⟨fun hid => ?_, ?_⟩⟩
  · exact ⟨usable_of_recorded hterrors htdistinct hrecorded hd hid,
      exists_uri_of_isNetworkChar (hrecorded d hd).chars⟩
  · intro hempty clock r hat
    rw [hempty] at hat
    exact respond_at_empty hat

end

/-! ### A batch of two -/

/-- The services of a small batch. -/
def pair : List Service := [{ name := "Web App" }, { name := "db" }]

/-- A request to create them. -/
def pairCreation : Request :=
  .posting "[\x7b\"name\":\"Web App\"\x7d,\x7b\"name\":\"db\"\x7d]"

/-- The request asks for the creation of the two services. -/
theorem asksFor_pairCreation (config : Config) (clock : Clock config.pollInterval.toNanos) :
    AsksFor config clock pairCreation (.create config pair) :=
  asksFor_posting (by decide +kernel) (by decide +kernel)

/-- Two services are created, and the first can be shown and removed under the id of its record. -/
theorem usable_of_created_pair :
    ∃ response t, (respond {} (.steady _ 0 0) pairCreation).run Store.handle {} = (.ok response, t) ∧
      response.status = 201 ∧
      Usable {} t [⟨"web-app", "pending"⟩, ⟨"db", "pending"⟩] ⟨"web-app", "pending"⟩ := by
  have hrun : (respond {} (.steady _ 0 0) pairCreation).run Store.handle {} =
      (.ok (success (.created [⟨"web-app", "pending"⟩, ⟨"db", "pending"⟩])),
        Store.adding {} [] pair) := by
    rw [respond_of_asksFor (asksFor_pairCreation {} (.steady _ 0 0))]
    rfl
  refine ⟨_, _, hrun, rfl, ?_⟩
  obtain ⟨records, hread, -, husable⟩ :=
    usable_of_created (fun _ => rfl) ⟨by decide, by decide⟩ rfl rfl hrun rfl
  obtain rfl := Except.ok.inj (hread.symm.trans (reports_success (.created _)).2)
  exact ((husable _ List.mem_cons_self).1 (by decide)).1

/-! ### The empty id -/

/-- A service without name is created, and its record has the empty id. The path with this id leads
nowhere, although the deployment is there: its record is not shown, and it cannot be removed. -/
theorem unusable_of_created :
    ∃ t uri, (respond {} (.steady _ 0 0) (.posting "[\x7b\x7d]")).run Store.handle {} =
        (.ok (success (.created [⟨"", "pending"⟩])), t) ∧
      (success (.created [⟨"", "pending"⟩])).status = 201 ∧ t.HasController "" ∧
      Uri.parse (addressOf "") = .ok uri ∧
      ∀ method ∈ ["GET", "DELETE"],
        (respond {} (.steady _ 0 0) ⟨method, uri, []⟩).run Store.handle t =
          (.ok { status := 404 }, t) := by
  have hasks : AsksFor {} (.steady _ 0 0) (.posting "[\x7b\x7d]") (.create {} [{}]) :=
    asksFor_posting (by decide +kernel) (by decide +kernel)
  refine ⟨Store.adding {} [] [{}], { target := "/v1/services/".toList }, ?_, rfl, ?_, ?_, ?_⟩
  · rw [respond_of_asksFor hasks]
    rfl
  · decide
  · decide
  · intro method _
    have hat : Request.IsAt ⟨method, { target := "/v1/services/".toList }, []⟩ "" := rfl
    rw [respond_at_empty hat]
    rfl

end Http

end Stevedore
