import Stevedore.Proofs.Adapter.Exchanges
import Stevedore.Proofs.Backend.Responses
/-!
# Removing a deployment over the wire

To remove a deployment its controller is fetched, changed and sent back. Whatever the server answers,
and whatever the controller says or leaves open, what is sent back is the controller that was fetched
with no pods asked for and nothing else changed. The requests before it are the lookup, the listing of the
network services and the deletions of those that were listed, and the controller is deleted only after the
server answered with a controller.

The namespace goes into the URIs as it is. One with a number sign or a question mark cuts the path off, so
that it leads to another object.

Main results:

- Theorem `clearing_over_wire`: the requests and the responses before a controller is sent back.
- Theorem `removal_sends_back`: what is sent back, what goes before it and what follows.
- Theorem `path_cut_off`: requests of a removal in a namespace with such a character.
-/

namespace Stevedore.Adapter

open Api Backend Cluster Lifecycle Program
open Text (upTo formDecode utf8)

/-! ## Calls and requests -/

/-- Runs that remove a deployment, also those with a wait whose end cannot be represented. -/
theorem removes_program (r : Removal) (handler : Handler σ) (s : σ) :
    ∃ c listed updated, Removes r.id c listed updated (r.program.transcript handler s) := by
  unfold Removal.program Lifecycle.destroy
  rw [transcript_bind]
  have hcases := (failsFast_dismantle r.id).run_cases handler s
  generalize (dismantle r.id).run handler s = pair at hcases ⊢
  obtain ⟨result, left⟩ := pair
  rcases hcases with ⟨selector, hfull, rfl⟩ | ⟨full, selector, e, hfull, hcut, rfl⟩
  · obtain ⟨c, listed, updated, ht, rfl⟩ := succeeds_dismantle hfull
    refine ⟨c, listed, updated, .inl ⟨_, by rw [ht], ?_⟩⟩
    exact Teardown.listPods_of_wait handler left r.clock _ r.config.teardownTimeout
  · obtain ⟨c, listed, updated, rfl, -⟩ := succeeds_dismantle hfull
    exact ⟨c, listed, updated, .inr ⟨e, by simpa using hcut⟩⟩

/-- The calls that clear the network services of a controller away. -/
def clearingCalls (id name : String) (listed : List NetworkService) : List Call :=
  .getController id :: .listServices (.forName name) ::
    (listed.filterMap (·.metadata.name)).map .deleteService

/-- The calls that clear the way for a removal do not depend on how they are answered. -/
theorem map_call_clearing (id : String) (c : Controller) (listed : List NetworkService) :
    (clearing id c listed).map (·.call) = clearingCalls id (nameOf id c) listed := by
  simp [clearing, clearingCalls]

/-- The calls that clear the way succeed, and none of them asks for the health. -/
theorem success_of_mem_clearing {id : String} {c : Controller} {listed : List NetworkService} :
    ∀ y ∈ clearing id c listed, y.failure? = none ∧ y.call ≠ .health := by
  intro y hy
  unfold clearing at hy
  simp only [List.mem_cons, List.mem_map] at hy
  rcases hy with rfl | rfl | ⟨name, -, rfl⟩ <;> exact ⟨rfl, by simp⟩

section

variable {clusterNamespace : String} {r : Removal} {script : Script} {c found : Controller}
  {listed : List NetworkService} {later : List Exchange}

/-- As long as no call fails, what was found and listed is what the first responses say. -/
theorem clearing_over_wire
    (hlooked : readObject Controller.record.read (script.responseAt 0) = .ok c)
    (ht : r.program.transcript (Script.handle clusterNamespace) script =
      clearing r.id found listed ++ later) :
    found = c ∧ readListing NetworkService.record.read (script.responseAt 1) = .ok listed ∧
      ∀ y ∈ clearing r.id found listed, ∃ q, request clusterNamespace y.call = .ok q := by
  have hrequests := Script.exists_requests_of_success ht success_of_mem_clearing
  let looking : Exchange := ⟨.getController r.id, .ok found⟩
  let listing : Exchange := ⟨.listServices (.forName (nameOf r.id found)), .ok listed⟩
  obtain ⟨lookup, hlookup⟩ := hrequests looking (by simp [clearing, looking])
  obtain ⟨list, hlist⟩ := hrequests listing (by simp [clearing, listing])
  refine ⟨?_, ?_, hrequests⟩
  · have hfirst : r.program.transcript (Script.handle clusterNamespace) script =
        [] ++ looking :: _ := ht
    have hreply := Script.reply_of_sent hfirst (by simp) hlookup
    exact Except.ok.inj (hreply.trans hlooked)
  · have hsecond : r.program.transcript (Script.handle clusterNamespace) script =
        [looking] ++ listing :: _ := ht
    refine (Script.reply_of_sent hsecond ?_ hlist).symm
    rw [List.forall_mem_singleton]
    exact ⟨lookup, hlookup⟩

/-- The requests of these calls, one for each. -/
theorem requests_of_clearing
    (h : ∀ y ∈ clearing r.id found listed, ∃ q, request clusterNamespace y.call = .ok q) :
    List.Forall₂ (fun call q => request clusterNamespace call = .ok q ∧ q.method = method call)
      (clearingCalls r.id (nameOf r.id found) listed)
      ((clearing r.id found listed).filterMap (Script.requestOf clusterNamespace)) := by
  rw [← map_call_clearing, List.forall₂_map_left_iff]
  exact (Script.forall₂_requests h).imp fun _ _ hq => ⟨hq, (request_ok hq).1⟩

end

/-! ## Paths and selectors -/

section

variable {clusterNamespace name : String} (hquery : '?' ∉ clusterNamespace.toList)
  (hfragment : '#' ∉ clusterNamespace.toList)

include hquery hfragment

/-- The path to which a controller is sent back ends in its name. -/
theorem path_of_updateController {c : Controller} {put : Api.Request}
    (hname : c.metadata.name = some name) (hne : name ≠ "")
    (hchars : name.toList.all Name.isNetworkChar)
    (hput : request clusterNamespace (.updateController c) = .ok put) :
    upTo '?' put.uri.toList =
      (collection clusterNamespace .controllers).toList ++ '/' :: name.toList := by
  have hself := Text.standsForItself_of_isNetworkChar hne hchars
  have htarget : (target clusterNamespace (.updateController c)).toList =
      ((collection clusterNamespace .controllers).toList ++ '/' :: name.toList) ++ ['?'] := by
    simp [target, targetParts, Controller.nameOrEmpty_of_name hname]
  have hfront : ∀ mark, mark = '?' ∨ mark = '#' → mark ∉ clusterNamespace.toList →
      mark ∉ name.toList →
      mark ∉ (collection clusterNamespace .controllers).toList ++ '/' :: name.toList := by
    intro mark hmark hnamespace hname
    have hslash : mark ≠ '/' := by
      rcases hmark with rfl | rfl <;> decide
    simp [(not_mem_collection_iff .controllers hmark).2 hnamespace, hslash, hname]
  have hfrontQuery := hfront '?' (.inl rfl) hquery hself.query
  have hfrontFragment := hfront '#' (.inr rfl) hfragment hself.fragment
  have hsuffix : upTo '#' ['?'] = ['?'] := by decide
  rw [(request_ok hput).2.2, htarget, Text.upTo_append hfrontFragment, hsuffix,
    Text.upTo_append hfrontQuery, Text.upTo_mark, List.append_nil]

/-- The network services are listed by the label of the name. -/
theorem selector_of_listServices {listing : Api.Request}
    (hlisting : request clusterNamespace (.listServices (.forName name)) = .ok listing) :
    ∃ value, queryValue? "labelSelector" listing.uri = some value ∧
      formDecode value = utf8 ("service-name=" ++ name).toList := by
  have htext : (Selector.forName name).text = "service-name=" ++ name := by
    have hlabel : serviceNameLabel ++ "=" = "service-name=" := by decide
    rw [← hlabel]
    rfl
  refine ⟨_, queryValue?_listServices hquery hfragment rfl hlisting, ?_⟩
  rw [Text.formDecode_formEncode, htext]

end

/-! ## What is sent back -/

section

variable {clusterNamespace : String} {r : Removal} {script : Script} {c : Controller} {name : String}

/-- The body of the request that sends a controller back is read as that controller. -/
theorem body_of_updateController {c : Controller} {put : Api.Request}
    (hput : request clusterNamespace (.updateController c) = .ok put) :
    ∃ body, put.body = some body ∧
      Json.decodeString Controller.record.read body.render = .ok c := by
  refine ⟨c.toJson, (request_ok hput).2.1, ?_⟩
  exact Json.decodeString_of_reads (Controller.readsBack c).1

/-- A request with the method PUT comes from an update of a controller. -/
theorem isUpdate_of_put {x : Exchange} {put : Api.Request}
    (hx : request clusterNamespace x.call = .ok put) (hput : put.method = .put) : IsUpdate x := by
  rw [(request_ok hx).1] at hput
  unfold IsUpdate
  cases hcall : x.call with
  | updateController c => exact ⟨c, rfl⟩
  | _ =>
      rw [hcall] at hput
      contradiction

/-- What is sent after a controller was sent back, if anything is: the server answered with a controller,
and now the controller is deleted and its pods are listed. -/
theorem requests_after_update {found updated : Controller} {listed : List NetworkService}
    {before after : List Exchange} {x : Exchange}
    (ht : r.program.transcript (Script.handle clusterNamespace) script = before ++ x :: after)
    (hremoves : Removes r.id found listed updated (before ++ x :: after)) (hx : IsUpdate x)
    (hbefore : ∀ y ∈ before, ∃ q, request clusterNamespace y.call = .ok q)
    (hsent : after.filterMap (Script.requestOf clusterNamespace) ≠ []) :
    readObject Controller.record.read (script.responseAt before.length) = .ok updated ∧
      ∃ deletion looks,
        after.filterMap (Script.requestOf clusterNamespace) = deletion :: looks ∧
        request clusterNamespace (.deleteController (nameOf r.id found)) = .ok deletion ∧
        ∀ q ∈ looks, q.method = .get := by
  obtain ⟨-, hcall, hnone | ⟨rfl, y, looks, rfl, hy, hyOk, hlooks⟩⟩ := hremoves.of_updateController hx
  · rw [hnone] at hsent
    contradiction
  · obtain ⟨put, hput⟩ := Script.exists_request_of_success ht rfl (by simp)
    refine ⟨(Script.reply_of_sent ht hbefore hput).symm, ?_⟩
    cases hdeletion : Script.requestOf clusterNamespace y with
    | none =>
        exfalso
        rcases hyOk with hsuccess | rfl
        · rw [← List.singleton_append, ← List.append_assoc] at ht
          obtain ⟨q, hq⟩ := Script.exists_request_of_success ht hsuccess (by simp [hy])
          rw [Script.requestOf_eq_some_iff.2 hq] at hdeletion
          contradiction
        · apply hsent
          rw [List.filterMap_cons_none hdeletion, List.filterMap_nil]
    | some q =>
        refine ⟨q, _, List.filterMap_cons_some hdeletion, ?_, ?_⟩
        · rw [← hy]
          exact Script.requestOf_eq_some_iff.1 hdeletion
        · intro look hlook
          obtain ⟨z, hz, hrequest⟩ := List.mem_filterMap.1 hlook
          have hmethod := (request_ok (Script.requestOf_eq_some_iff.1 hrequest)).1
          rw [hlooks z hz] at hmethod
          exact hmethod

/-- When a removal sends a controller back, it is the one that was fetched but for the number of pods. The
requests before it are the lookup, the listing of its network services and the deletions of those that
were listed and have names. What follows, if anything does, is the deletion of the controller, after a
response with a controller. A controller is not deleted otherwise. In a namespace with neither question
mark nor number sign the path ends in the name, and the label of the name is asked for. -/
theorem removal_sends_back (clusterNamespace : String) (r : Removal) {script : Script}
    {c : Controller} {name : String} (hnew : script.sent = [])
    (hlooked : readObject Controller.record.read (script.responseAt 0) = .ok c)
    (hname : c.metadata.name = some name) (hne : name ≠ "")
    (hchars : name.toList.all Name.isNetworkChar) :
    let t := r.program.transcript (Script.handle clusterNamespace) script
    let sent := (r.program.run (Script.handle clusterNamespace) script).2.sent
    (∀ before put after, sent = before ++ put :: after → put.method = .put →
      (∃ listed,
        readListing NetworkService.record.read (script.responseAt 1) = .ok listed ∧
        List.Forall₂ (fun call q => request clusterNamespace call = .ok q ∧ q.method = method call)
          (clearingCalls r.id name listed) before) ∧
      (∃ body, put.body = some body ∧ Json.decodeString Controller.record.read body.render =
        .ok { c with spec := some { c.spec.getD {} with replicas := some 0 } }) ∧
      ('?' ∉ clusterNamespace.toList → '#' ∉ clusterNamespace.toList →
        upTo '?' put.uri.toList =
            (collection clusterNamespace .controllers).toList ++ '/' :: name.toList ∧
          ∃ listing value, before[1]? = some listing ∧
            queryValue? "labelSelector" listing.uri = some value ∧
            formDecode value = utf8 ("service-name=" ++ name).toList) ∧
      (after ≠ [] → ∃ updated deletion looks,
        readObject Controller.record.read (script.responseAt before.length) = .ok updated ∧
        after = deletion :: looks ∧
        request clusterNamespace (.deleteController name) = .ok deletion ∧
        ∀ q ∈ looks, q.method = .get)) ∧
    ∀ earlier x later other, t = earlier ++ x :: later → x.call = .deleteController other →
      other = name ∧ ∃ before put after updated, sent = before ++ put :: after ∧ put.method = .put ∧
        readObject Controller.record.read (script.responseAt before.length) = .ok updated := by
  intro t sent
  obtain ⟨found, listed, updated, hremoves⟩ :=
    removes_program r (Script.handle clusterNamespace) script
  constructor
  · intro before put after hsent hput
    obtain ⟨t₁, x, t₂, ht, rfl, hx, rfl⟩ := Script.split_of_sent hnew hsent
    have hupdate := isUpdate_of_put hx hput
    rw [ht] at hremoves
    obtain ⟨rfl, hcall, -⟩ := hremoves.of_updateController hupdate
    obtain ⟨rfl, hlisted, hrequests⟩ := clearing_over_wire hlooked ht
    have hnamed : nameOf r.id found = name := by simp [nameOf, hname]
    have hbefore := requests_of_clearing hrequests
    rw [hnamed] at hbefore
    have hput := hx
    rw [hcall] at hput
    refine ⟨⟨listed, hlisted, hbefore⟩, body_of_updateController hput, ?_, ?_⟩
    · intro hquery hfragment
      obtain ⟨lookup, _, -, hrest, hlookup⟩ := List.forall₂_cons_left_iff.1 hbefore
      obtain ⟨listing, _, hlisting, -, rfl⟩ := List.forall₂_cons_left_iff.1 hrest
      obtain ⟨value, hvalue, hdecoded⟩ :=
        selector_of_listServices hquery hfragment hlisting.1
      have hscaled : (found.scaledTo 0).metadata.name = some name := hname
      refine ⟨path_of_updateController hquery hfragment hscaled hne hchars hput, ?_⟩
      exact ⟨listing, value, by rw [hlookup]; rfl, hvalue, hdecoded⟩
    · intro hafter
      obtain ⟨hanswer, deletion, looks, hsplit, hdeletion, hlooks⟩ :=
        requests_after_update ht hremoves hupdate hrequests hafter
      rw [hnamed] at hdeletion
      rw [Script.length_requests hrequests]
      exact ⟨updated, deletion, looks, hanswer, hsplit, hdeletion, hlooks⟩
  · intro earlier x later other ht hx
    change r.program.transcript _ script = _ at ht
    rw [ht] at hremoves
    obtain ⟨rfl, rfl⟩ := hremoves.of_deleteController hx
    unfold preparation at ht
    rw [List.append_assoc] at ht
    obtain ⟨rfl, -, hrequests⟩ := clearing_over_wire hlooked ht
    obtain ⟨put, hput⟩ := Script.exists_request_of_success ht rfl (by simp)
    have hsent := Script.sent_of_split hnew ht hput
    refine ⟨by simp [nameOf, hname], _, put, _, updated, hsent, (request_ok hput).1, ?_⟩
    rw [Script.length_requests hrequests]
    exact (Script.reply_of_sent ht hrequests hput).symm

end

/-! ## Removals in three namespaces -/

/-- Without network services four requests are sent before the connection is lost. -/
theorem sent_without_services {clusterNamespace : String} {r : Removal} {c updated : Controller}
    {first second third : Api.Response} {lookup listing put deletion : Api.Request}
    (hfound : readObject Controller.record.read first = .ok c)
    (hlisted : readListing NetworkService.record.read second = .ok [])
    (hupdated : readObject Controller.record.read third = .ok updated)
    (hlookup : request clusterNamespace (.getController r.id) = .ok lookup)
    (hlisting : request clusterNamespace (.listServices (.forName (nameOf r.id c))) = .ok listing)
    (hput : request clusterNamespace (.updateController (c.scaledTo 0)) = .ok put)
    (hdeletion : request clusterNamespace (.deleteController (nameOf r.id c)) = .ok deletion) :
    (r.program.run (Script.handle clusterNamespace) { responses := [first, second, third] }).2.sent =
      [lookup, listing, put, deletion] := by
  have hget : (getController r.id).run (Script.handle clusterNamespace) ⟨[first, second, third], []⟩ =
      (.ok c, ⟨[second, third], [lookup]⟩) :=
    Script.run_of_response (asks_getController r.id) hlookup hfound
  have hlist : (listServices (.forName (nameOf r.id c))).run (Script.handle clusterNamespace)
      ⟨[second, third], [lookup]⟩ = (.ok [], ⟨[third], [lookup, listing]⟩) :=
    Script.run_of_response (asks_listServices _) hlisting hlisted
  have hupdate : (updateController (c.scaledTo 0)).run (Script.handle clusterNamespace)
      ⟨[third], [lookup, listing]⟩ = (.ok updated, ⟨[], [lookup, listing, put]⟩) :=
    Script.run_of_response (asks_updateController _) hput hupdated
  have hdelete : (deleteController (nameOf r.id c)).run (Script.handle clusterNamespace)
      ⟨[], [lookup, listing, put]⟩ =
        (.error (.error (.internal "ServiceError: no scripted response")),
          ⟨[], [lookup, listing, put, deletion]⟩) := by
    have hlost := Script.handle_eq_reply hdeletion ⟨[], [lookup, listing, put]⟩
    change (ofReply (Script.handle clusterNamespace (.deleteController (nameOf r.id c)) _).1).run
      (Script.handle clusterNamespace) _ = _
    rw [hlost]
    rfl
  unfold Removal.program Lifecycle.destroy dismantle
  simp only [Program.bind_assoc, run_bind, hget, hlist, List.filterMap_nil, forEach, run_done, hupdate, hdelete]

/-- A controller that asks for three pods. -/
def fetchedWeb : Controller where
  metadata := { name := some "web", resourceVersion := some "7" }
  spec := some { replicas := some 3, selector := some (.single "app" "web") }

/-- A server with this controller, for which it lists no network services. It accepts that the controller
is replaced, and then the connection is lost. -/
def serverOfWeb : Script where
  responses := [.received 200 fetchedWeb.toJson.render,
    .received 200 (listingToJson "Service" NetworkService.toJson []).render,
    .received 200 (fetchedWeb.scaledTo 0).toJson.render]

/-- What is written of a controller is read back from a response as this controller. -/
theorem readObject_toJson (c : Controller) :
    readObject Controller.record.read (.received 200 c.toJson.render) = .ok c := by
  have hencodes : Encodes (.getController "") (.ok c) (.received 200 c.toJson.render) :=
    ⟨200, _, rfl, rfl, rfl⟩
  exact reply_of_encodes hencodes

/-- The body that sends the controller back. -/
def sentBackWeb : Json := (fetchedWeb.scaledTo 0).toJson

/-- The URI to which the request of a call goes, if there is one. -/
def uri? (clusterNamespace : String) (call : Call) : Option String :=
  (request clusterNamespace call).toOption.map (·.uri)

/-- A call with a URI has a request of its own method and body. -/
theorem request_of_uri? {clusterNamespace uri : String} {call : Call}
    (h : uri? clusterNamespace call = some uri) :
    request clusterNamespace call = .ok ⟨method call, uri, body? call⟩ := by
  unfold uri? at h
  cases hq : request clusterNamespace call with
  | error o =>
      rw [hq] at h
      contradiction
  | ok q =>
      rw [hq] at h
      obtain ⟨hmethod, hbody, -⟩ := request_ok hq
      obtain rfl : q.uri = uri := Option.some.inj h
      rw [← hmethod, ← hbody]

/-- The calls that remove the controller. -/
def removalOfWeb : List Call :=
  [.getController "web", .listServices (.forName "web"), .updateController (fetchedWeb.scaledTo 0),
    .deleteController "web"]

/-- What is sent to remove the controller. -/
theorem sent_to_serverOfWeb {clusterNamespace lookup listing put deletion : String}
    (huris : removalOfWeb.map (uri? clusterNamespace) =
      [some lookup, some listing, some put, some deletion]) :
    ((Removal.prompt "web").program.run (Script.handle clusterNamespace) serverOfWeb).2.sent =
      [⟨.get, lookup, none⟩, ⟨.get, listing, none⟩] ++
        ⟨.put, put, some sentBackWeb⟩ :: [⟨.delete, deletion, some (.object [])⟩] := by
  simp only [removalOfWeb, List.map_cons, List.map_nil, List.cons.injEq, and_true] at huris
  obtain ⟨hlookup, hlisting, hput, hdeletion⟩ := huris
  obtain ⟨members, hmembers, hlist⟩ :=
    listMembers_listingToJson "Service" NetworkService.toJson []
  have hnone : Encodes (.listServices .everything) (.ok [])
      (.received 200 (listingToJson "Service" NetworkService.toJson []).render) :=
    ⟨200, _, rfl, ⟨members, hlist, hmembers⟩, rfl⟩
  exact sent_without_services (readObject_toJson fetchedWeb) (reply_of_encodes hnone)
    (readObject_toJson (fetchedWeb.scaledTo 0)) (request_of_uri? hlookup) (request_of_uri? hlisting)
    (request_of_uri? hput) (request_of_uri? hdeletion)

/-- The controller that the server has is fetched, sent back asking for no pods and otherwise as it
was, and its deletion is asked for. -/
theorem removal_sends_back_web :
    readObject Controller.record.read (serverOfWeb.responseAt 0) = .ok fetchedWeb ∧
      "web".toList.all Name.isNetworkChar ∧
      ((Removal.prompt "web").program.run (Script.handle "default") serverOfWeb).2.sent =
        [⟨.get, "/api/v1/namespaces/default/replicationcontrollers/web", none⟩,
          ⟨.get, "/api/v1/namespaces/default/services?&labelSelector=service-name%3Dweb", none⟩] ++
          ⟨.put, "/api/v1/namespaces/default/replicationcontrollers/web?", some sentBackWeb⟩ ::
            [⟨.delete, "/api/v1/namespaces/default/replicationcontrollers/web?",
              some (.object [])⟩] ∧
      Json.decodeString Controller.record.read sentBackWeb.render = .ok {
        metadata := { name := some "web", resourceVersion := some "7" }
        spec := some { replicas := some 0, selector := some (.single "app" "web") } } := by
  have hlooked : readObject Controller.record.read (serverOfWeb.responseAt 0) = .ok fetchedWeb :=
    readObject_toJson fetchedWeb
  have hchars : "web".toList.all Name.isNetworkChar := by decide
  have huris : removalOfWeb.map (uri? "default") = [
      some "/api/v1/namespaces/default/replicationcontrollers/web",
      some "/api/v1/namespaces/default/services?&labelSelector=service-name%3Dweb",
      some "/api/v1/namespaces/default/replicationcontrollers/web?",
      some "/api/v1/namespaces/default/replicationcontrollers/web?"] := by decide +kernel
  have hsent := sent_to_serverOfWeb huris
  obtain ⟨hsends, -⟩ :=
    removal_sends_back "default" (.prompt "web") rfl hlooked rfl (by decide) hchars
  obtain ⟨-, ⟨body, hbody, hread⟩, -⟩ := hsends _ _ _ hsent rfl
  obtain rfl := Option.some.inj hbody
  exact ⟨hlooked, hchars, hsent, hread⟩

/-- Behind a number sign nothing of a URI is sent, and behind a question mark nothing belongs to the path.
The controller is sent back to the namespace, and with a number sign no label is asked for. -/
theorem path_cut_off :
    readObject Controller.record.read (serverOfWeb.responseAt 0) = .ok fetchedWeb ∧
      (∃ before put after,
        ((Removal.prompt "web").program.run (Script.handle "n#x") serverOfWeb).2.sent =
          before ++ put :: after ∧ put.method = .put ∧
        upTo '?' put.uri.toList = "/api/v1/namespaces/n".toList ∧
        ¬ "web".toList <:+ upTo '?' put.uri.toList ∧
        ∀ q ∈ before, queryValue? "labelSelector" q.uri = none) ∧
      ∃ before put after,
        ((Removal.prompt "web").program.run (Script.handle "n?x") serverOfWeb).2.sent =
          before ++ put :: after ∧ put.method = .put ∧
        upTo '?' put.uri.toList = "/api/v1/namespaces/n".toList ∧
        ¬ "web".toList <:+ upTo '?' put.uri.toList := by
  have hnumber : removalOfWeb.map (uri? "n#x") = [some "/api/v1/namespaces/n",
      some "/api/v1/namespaces/n", some "/api/v1/namespaces/n", some "/api/v1/namespaces/n"] := by
    decide +kernel
  have hquestion : removalOfWeb.map (uri? "n?x") = [
      some "/api/v1/namespaces/n?x/replicationcontrollers/web",
      some "/api/v1/namespaces/n?x/services?&labelSelector=service-name%3Dweb",
      some "/api/v1/namespaces/n?x/replicationcontrollers/web?",
      some "/api/v1/namespaces/n?x/replicationcontrollers/web?"] := by decide +kernel
  have hpath : ¬ "web".toList <:+ "/api/v1/namespaces/n".toList := by decide
  refine ⟨readObject_toJson fetchedWeb, ⟨_, _, _, sent_to_serverOfWeb hnumber, rfl, ?_⟩,
    _, _, _, sent_to_serverOfWeb hquestion, rfl, ?_⟩
  · have hcut : upTo '?' "/api/v1/namespaces/n".toList = "/api/v1/namespaces/n".toList := by decide
    have hnone : queryValue? "labelSelector" "/api/v1/namespaces/n" = none := by decide +kernel
    rw [hcut]
    exact ⟨rfl, hpath, by simp [hnone]⟩
  · have hcut : upTo '?' "/api/v1/namespaces/n?x/replicationcontrollers/web?".toList =
        "/api/v1/namespaces/n".toList := by decide +kernel
    rw [hcut]
    exact ⟨rfl, hpath⟩

end Stevedore.Adapter
