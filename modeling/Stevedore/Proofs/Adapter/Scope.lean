import Stevedore.Proofs.Adapter.Actions
import Stevedore.Proofs.Backend.Addresses
import Stevedore.Proofs.Http.Paths
import Mathlib.Data.List.TakeWhile
/-!
# What the requests for one deployment address

The id of a deployment, and every other name, goes into the URI of a request as it is. If it is a segment
of a path that stands for itself, the URI addresses the object of that name in the namespace. Otherwise
the URI means something else, but the request is sent all the same as long as its characters are allowed:
a slash leads to what is below another object, a number sign cuts the name off, a question mark turns the
rest of it into a query.

Main definitions:

- `Api.object?`: the object that a call addresses by its name.
- `Api.Addresses`: a URI addresses an object.
- `Action.IsFor`: an operation on one deployment.

Main results:

- Theorem `addresses_iff`: what the URI of a request has to do with the object of its call.
- Theorem `requests_for_deployment`: the requests of an operation on one deployment.
-/

namespace Stevedore

open Backend Cluster Program

/-! ## Texts up to a mark -/

namespace Text

/-- What stands before the first mark. -/
def upTo (mark : Char) (cs : List Char) : List Char := cs.takeWhile (· != mark)

variable {mark : Char} {cs ds : List Char}

/-- What stands before the first mark holds none. -/
theorem not_mem_upTo (mark : Char) (cs : List Char) : mark ∉ upTo mark cs := by
  intro h
  have hne := List.mem_takeWhile_imp h
  simp at hne

/-- What stands before the first mark is what the text starts with. -/
theorem upTo_isPrefix (mark : Char) (cs : List Char) : upTo mark cs <+: cs :=
  List.takeWhile_prefix _

/-- Without the mark the text is taken as a whole. -/
theorem upTo_append (h : mark ∉ cs) (ds : List Char) : upTo mark (cs ++ ds) = cs ++ upTo mark ds :=
  List.takeWhile_append_of_pos fun c hc => by
    have hne : c ≠ mark := fun heq => h (heq ▸ hc)
    simpa using hne

theorem upTo_of_not_mem (h : mark ∉ cs) : upTo mark cs = cs := by
  have hall := upTo_append h []
  simpa [upTo] using hall

theorem upTo_cons {c : Char} (h : c ≠ mark) (cs : List Char) :
    upTo mark (c :: cs) = c :: upTo mark cs := by
  simp [upTo, h]

theorem upTo_mark (mark : Char) (cs : List Char) : upTo mark (mark :: cs) = [] := by
  simp [upTo]

/-- A part of a text from its start that decodes to the whole text is the whole text. -/
theorem eq_of_prefix_of_decoded (hstart : cs <+: ds) (hdecoded : percentDecode (utf8 cs) = utf8 ds) :
    cs = ds := by
  obtain ⟨rest, rfl⟩ := hstart
  have hlength := length_percentDecode_le (utf8 cs)
  rw [hdecoded, utf8_append, List.length_append] at hlength
  cases rest with
  | nil => simp
  | cons c rest =>
      have hc : 0 < (String.utf8EncodeChar c).length := by
        rw [String.length_utf8EncodeChar]
        exact c.utf8Size_pos
      rw [utf8_cons, List.length_append] at hlength
      omega

end Text

/-! ## Targets of requests -/

namespace Uri

/-- A target is cut off at its fragment. -/
theorem parseTarget_eq {inQuery : Bool} {cs target : List Char}
    (h : parseTarget inQuery cs = .ok target) : target = Text.upTo '#' cs := by
  induction cs generalizing inQuery target with
  | nil =>
      obtain rfl := Except.ok.inj h
      rfl
  | cons c rest ih =>
      have hmap : ∀ b, (parseTarget b rest).map (c :: ·) = .ok target →
          target = c :: Text.upTo '#' rest := by
        intro b hb
        cases htail : parseTarget b rest with
        | error e =>
            rw [htail] at hb
            nomatch hb
        | ok tail =>
            rw [htail] at hb
            obtain rfl : c :: tail = target := Except.ok.inj hb
            rw [ih htail]
      unfold parseTarget at h
      by_cases hc : c = '#'
      · rw [if_pos hc] at h
        obtain rfl := Except.ok.inj h
        rw [hc, Text.upTo_mark]
      · rw [Text.upTo_cons hc]
        rw [if_neg hc] at h
        generalize (if inQuery then isQueryChar c else isPathChar c) = allowed at h
        split at h
        · exact hmap true h
        · split at h
          · exact hmap inQuery h
          · contradiction

/-- A path that is parsed as a URI is kept up to the first number sign. -/
theorem target_of_parse {s : String} {rest : List Char} (hs : s.toList = '/' :: rest) {uri : Uri}
    (h : parse s = .ok uri) : uri.target = Text.upTo '#' s.toList := by
  unfold parse at h
  split at h
  · contradiction
  · rw [hs] at h ⊢
    simp only at h
    cases htarget : parseTarget false ('/' :: rest) with
    | error e => simp [htarget] at h
    | ok target =>
        simp only [htarget, Except.ok.injEq] at h
        rw [← h]
        exact parseTarget_eq htarget

end Uri

namespace Api

open Text (upTo IsSegment StandsForItself percentDecode utf8)

/-- The object that a call addresses by its name. -/
def object? : Call → Option (Resource × String)
  | .getController name => some (.controllers, name)
  | .updateController c => some (.controllers, c.nameOrEmpty)
  | .deleteController name => some (.controllers, name)
  | .deleteService name => some (.services, name)
  | _ => none

section

variable {clusterNamespace name : String} {resource : Resource} {call : Call} {r : Request}

/-- The path of the objects of a kind: the namespace after the version, and the kind as last
segment. -/
theorem toList_collection (clusterNamespace : String) (resource : Resource) :
    (collection clusterNamespace resource).toList =
      ("/api/v1/namespaces/" ++ clusterNamespace).toList ++ '/' :: resource.plural.toList := by
  unfold collection
  rw [String.append_assoc, String.toList_append]
  simp

/-- The path of the objects of a kind starts with a slash. -/
theorem exists_toList_collection (clusterNamespace : String) (resource : Resource) :
    ∃ rest, (collection clusterNamespace resource).toList = '/' :: rest := by
  obtain ⟨root, hroot⟩ : ∃ root, "/api/v1/namespaces/".toList = '/' :: root := ⟨_, rfl⟩
  rw [toList_collection, String.toList_append, hroot]
  exact ⟨_, rfl⟩

/-- A mark of a query or a fragment comes into the path of a kind of objects by the namespace alone. -/
theorem not_mem_collection_iff (resource : Resource) {mark : Char} (hmark : mark = '?' ∨ mark = '#') :
    mark ∉ (collection clusterNamespace resource).toList ↔ mark ∉ clusterNamespace.toList := by
  have hroot : mark ∉ "/api/v1/namespaces/".toList := by
    rcases hmark with rfl | rfl <;> decide
  have hplural : mark ∉ '/' :: resource.plural.toList := by
    rcases hmark with rfl | rfl <;> cases resource <;> decide
  rw [toList_collection, String.toList_append, List.mem_append, List.mem_append]
  simp only [hroot, hplural, false_or, or_false]

/-- The calls that address an object by its name. -/
theorem object?_cases (h : object? call = some (resource, name)) :
    (call = .getController name ∧ resource = .controllers) ∨
    (∃ c, call = .updateController c ∧ resource = .controllers ∧ c.nameOrEmpty = name) ∨
    (call = .deleteController name ∧ resource = .controllers) ∨
    (call = .deleteService name ∧ resource = .services) := by
  cases call with
  | getController other =>
      obtain ⟨rfl, rfl⟩ : .controllers = resource ∧ other = name := by simpa [object?] using h
      exact .inl ⟨rfl, rfl⟩
  | updateController c =>
      obtain ⟨rfl, hname⟩ : .controllers = resource ∧ c.nameOrEmpty = name := by
        simpa [object?] using h
      exact .inr (.inl ⟨c, rfl, rfl, hname⟩)
  | deleteController other =>
      obtain ⟨rfl, rfl⟩ : .controllers = resource ∧ other = name := by simpa [object?] using h
      exact .inr (.inr (.inl ⟨rfl, rfl⟩))
  | deleteService other =>
      obtain ⟨rfl, rfl⟩ : .services = resource ∧ other = name := by simpa [object?] using h
      exact .inr (.inr (.inr ⟨rfl, rfl⟩))
  | _ => contradiction

/-- The target of a call leads from the objects of the kind to the name, perhaps with the question mark
of an empty query. -/
theorem target_of_object (clusterNamespace : String) (h : object? call = some (resource, name)) :
    ∃ suffix, (suffix = [] ∨ suffix = ['?']) ∧ (target clusterNamespace call).toList =
      (collection clusterNamespace resource).toList ++ '/' :: (name.toList ++ suffix) := by
  rcases object?_cases h with ⟨rfl, rfl⟩ | ⟨c, rfl, rfl, rfl⟩ | ⟨rfl, rfl⟩ | ⟨rfl, rfl⟩
  · exact ⟨[], .inl rfl, by simp [target, targetParts]⟩
  · exact ⟨['?'], .inr rfl, by simp [target, targetParts]⟩
  · exact ⟨['?'], .inr rfl, by simp [target, targetParts]⟩
  · exact ⟨['?'], .inr rfl, by simp [target, targetParts]⟩

/-- The name that a call puts into its URI is that of the object it is for. -/
theorem address?_eq (call : Call) : address? call = (object? call).map (·.2) := by
  cases call <;> rfl

/-- Without a name no request is made. -/
theorem name_ne_of_request (h : object? call = some (resource, name))
    (hr : request clusterNamespace call = .ok r) : name ≠ "" := by
  rintro rfl
  rcases object?_cases h with ⟨rfl, -⟩ | ⟨c, rfl, -, hc⟩ | ⟨rfl, -⟩ | ⟨rfl, -⟩
  · simp [request, namedRequest] at hr
  · cases hname : c.metadata.name with
    | none => simp [request, hname] at hr
    | some other =>
        obtain rfl : other = "" := by simpa [Controller.nameOrEmpty, hname] using hc
        simp [request, hname, namedRequest] at hr
  · simp [request, deleteRequest, namedRequest] at hr
  · simp [request, deleteRequest, namedRequest] at hr

/-- The target of a call is a path from the root, and perhaps a query. -/
theorem exists_toList_target (clusterNamespace : String) (call : Call) :
    ∃ rest, (target clusterNamespace call).toList = '/' :: rest := by
  have hcollection : ∀ (resource : Resource) (more : String), ∃ rest,
      (collection clusterNamespace resource ++ more).toList = '/' :: rest := by
    intro resource more
    obtain ⟨rest, hrest⟩ := exists_toList_collection clusterNamespace resource
    rw [String.toList_append, hrest]
    exact ⟨_, rfl⟩
  cases call with
  | health =>
      have hnodes : "/api/v1/nodes?&limit=1".toList = '/' :: "api/v1/nodes?&limit=1".toList := by
        decide
      exact ⟨_, hnodes⟩
  | _ =>
      simp only [target, targetParts, String.append_assoc]
      apply hcollection

/-- The request of a call has its method and its body, and its URI is the target of the call up to the
first number sign. -/
theorem request_ok (hr : request clusterNamespace call = .ok r) :
    r.method = method call ∧ r.body = body? call ∧
      r.uri.toList = upTo '#' (target clusterNamespace call).toList := by
  have hnamed : ∀ other ∈ address? call, other ≠ "" := by
    rw [address?_eq]
    intro other hother
    obtain ⟨⟨resource, _⟩, hobject, rfl⟩ := Option.map_eq_some_iff.1 hother
    exact name_ne_of_request hobject hr
  rw [request_eq_requestTo clusterNamespace hnamed, requestTo] at hr
  cases hparse : Uri.parse (target clusterNamespace call) with
  | error fault =>
      rw [hparse] at hr
      contradiction
  | ok uri =>
      rw [hparse] at hr
      obtain rfl := Except.ok.inj hr
      obtain ⟨rest, hrest⟩ := exists_toList_target clusterNamespace call
      refine ⟨rfl, rfl, ?_⟩
      rw [String.toList_ofList]
      exact Uri.target_of_parse hrest hparse

/-! ## Addresses -/

/-- The URI addresses an object: its path is that of the objects of this kind in the namespace and one
segment that stands for the name, and there is no query. -/
def Addresses (clusterNamespace : String) (resource : Resource) (name : String) (uri : List Char) :
    Prop :=
  ∃ segment, upTo '?' uri = (collection clusterNamespace resource).toList ++ '/' :: segment ∧
    IsSegment segment ∧ percentDecode (utf8 segment) = utf8 name.toList ∧
    '#' ∉ uri ∧ uri.dropWhile (· != '?') ∈ [[], ['?']]

/-- The URI of the objects of a kind, followed by a slash and a text, and cut off at the first number
sign. -/
def pasted (clusterNamespace : String) (resource : Resource) (text : List Char) : List Char :=
  upTo '#' ((collection clusterNamespace resource).toList ++ '/' :: text)

section

variable {suffix : List Char} (hsuffix : suffix = [] ∨ suffix = ['?'])

include hsuffix

/-- A name that stands for itself is addressed by pasting it. -/
theorem addresses_pasted (hquery : '?' ∉ (collection clusterNamespace resource).toList)
    (hfragment : '#' ∉ (collection clusterNamespace resource).toList)
    (hname : StandsForItself name) :
    Addresses clusterNamespace resource name
      (pasted clusterNamespace resource (name.toList ++ suffix)) := by
  unfold Addresses pasted
  generalize (collection clusterNamespace resource).toList = path at hquery hfragment ⊢
  have hfront : ∀ mark, mark ≠ '/' → mark ∉ path → mark ∉ name.toList →
      mark ∉ path ++ '/' :: name.toList := by
    intro mark hslash hpath hname
    simp [hslash, hpath, hname]
  have hfront_query := hfront '?' (by decide) hquery hname.query
  have hfront_fragment := hfront '#' (by decide) hfragment hname.fragment
  have hsuffix_fragment : '#' ∉ suffix := by
    rcases hsuffix with rfl | rfl <;> decide
  rw [← List.cons_append, ← List.append_assoc, Text.upTo_append hfront_fragment,
    Text.upTo_of_not_mem hsuffix_fragment]
  refine ⟨name.toList, ?_, hname.segment, hname.decoded, ?_, ?_⟩
  · rw [Text.upTo_append hfront_query]
    rcases hsuffix with rfl | rfl <;> simp [upTo]
  · rw [List.mem_append, not_or]
    exact ⟨hfront_fragment, hsuffix_fragment⟩
  · rw [List.dropWhile_append_of_pos fun c hc => by
      have hne : c ≠ '?' := fun heq => hfront_query (heq ▸ hc)
      simpa using hne]
    rcases hsuffix with rfl | rfl <;> simp

/-- A name that is addressed by pasting it stands for itself. -/
theorem standsForItself_of_pasted (h : Addresses clusterNamespace resource name
    (pasted clusterNamespace resource (name.toList ++ suffix))) :
    '?' ∉ (collection clusterNamespace resource).toList ∧
      '#' ∉ (collection clusterNamespace resource).toList ∧ StandsForItself name := by
  obtain ⟨segment, hpath, hsegment, hdecoded, -⟩ := h
  unfold pasted at hpath
  generalize (collection clusterNamespace resource).toList = path at hpath ⊢
  have hquery : '?' ∉ path := by
    intro hmem
    refine Text.not_mem_upTo '?' (upTo '#' (path ++ '/' :: (name.toList ++ suffix))) ?_
    rw [hpath]
    exact List.mem_append_left _ hmem
  have hfragment : '#' ∉ path := by
    intro hmem
    refine Text.not_mem_upTo '#' (path ++ '/' :: (name.toList ++ suffix)) ?_
    refine (Text.upTo_isPrefix '?' _).subset ?_
    rw [hpath]
    exact List.mem_append_left _ hmem
  rw [Text.upTo_append hfragment, Text.upTo_cons (by decide), Text.upTo_append hquery,
    Text.upTo_cons (by decide), List.append_cancel_left_eq, List.cons.injEq] at hpath
  have hsegment_query : '?' ∉ segment := hpath.2 ▸ Text.not_mem_upTo _ _
  have hkept : segment <+: upTo '#' (name.toList ++ suffix) := hpath.2 ▸ Text.upTo_isPrefix _ _
  have hname : segment <+: name.toList := by
    have hstart := hkept.trans (Text.upTo_isPrefix _ _)
    rcases hsuffix with rfl | rfl
    · rwa [List.append_nil] at hstart
    · rcases List.prefix_concat_iff.1 hstart with heq | hstart
      · exact absurd (by rw [heq]; simp) hsegment_query
      · exact hstart
  obtain rfl := Text.eq_of_prefix_of_decoded hname hdecoded
  exact ⟨hquery, hfragment, hsegment, hsegment_query,
    fun hmem => Text.not_mem_upTo _ _ (hkept.subset hmem), hdecoded⟩

end

/-- The URI of a request addresses the object of its call just if the name stands for itself, in a
namespace that has neither question mark nor number sign. -/
theorem addresses_iff (h : object? call = some (resource, name))
    (hr : request clusterNamespace call = .ok r) :
    Addresses clusterNamespace resource name r.uri.toList ↔
      '?' ∉ clusterNamespace.toList ∧ '#' ∉ clusterNamespace.toList ∧ StandsForItself name := by
  obtain ⟨suffix, hsuffix, htarget⟩ := target_of_object clusterNamespace h
  rw [(request_ok hr).2.2, htarget, ← not_mem_collection_iff resource (.inl rfl),
    ← not_mem_collection_iff resource (.inr rfl)]
  constructor
  · exact standsForItself_of_pasted hsuffix
  · rintro ⟨hquery, hfragment, hname⟩
    exact addresses_pasted hsuffix hquery hfragment hname

/-- Two lookups go to the same URI just if the names agree up to the first number sign. -/
theorem uri_getController_eq_iff {other : String} {q : Request}
    (hnamespace : '#' ∉ clusterNamespace.toList)
    (hr : request clusterNamespace (.getController name) = .ok r)
    (hq : request clusterNamespace (.getController other) = .ok q) :
    r.uri = q.uri ↔ upTo '#' name.toList = upTo '#' other.toList := by
  have hpath := (not_mem_collection_iff .controllers (.inr rfl)).2 hnamespace
  have hcut : ∀ {name : String} {r : Request},
      request clusterNamespace (.getController name) = .ok r →
      r.uri.toList =
        (collection clusterNamespace .controllers).toList ++ '/' :: upTo '#' name.toList := by
    intro name r hr
    have htarget : (target clusterNamespace (.getController name)).toList =
        (collection clusterNamespace .controllers).toList ++ '/' :: name.toList := by
      simp [target, targetParts]
    rw [(request_ok hr).2.2, htarget, Text.upTo_append hpath, Text.upTo_cons (by decide)]
  rw [← String.toList_inj, hcut hr, hcut hq, List.append_cancel_left_eq, List.cons.injEq]
  simp

end

/-! ## Requests of a run -/

/-- What is sent in a run are the requests of its calls, as far as there are any. -/
theorem Script.sent_run (clusterNamespace : String) (p : Program α) (s : Script) :
    (p.run (Script.handle clusterNamespace) s).2.sent =
      s.sent ++ (p.transcript (Script.handle clusterNamespace) s).filterMap fun x =>
        (request clusterNamespace x.call).toOption := by
  induction p generalizing s with
  | done a => simp
  | fail e => simp
  | call c next ih =>
      rw [run_call, transcript_call, ih, List.filterMap_cons]
      cases hr : request clusterNamespace c with
      | error o => simp [Script.handle, hr, Except.toOption]
      | ok r =>
          have hsent : (Script.handle clusterNamespace c s).2.sent = s.sent ++ [r] := by
            unfold Script.handle
            rw [hr]
            unfold Script.exchange
            cases s.responses <;> rfl
          simp [hsent, Except.toOption]

end Api

namespace Adapter

open Api
open Text (upTo StandsForItself)

/-- The operation is for one deployment, with this id. -/
inductive Action.IsFor (id : String) : Action → Prop
  | get : IsFor id (.get id)
  | destroy {r : Removal} (hr : r.id = id) : IsFor id (.destroy r)

/-- Every operation on one deployment asks for its controller first. -/
theorem transcript_of_isFor {id : String} {a : Action} (ha : a.IsFor id) (handler : Handler σ)
    (s : σ) : ∃ reply rest, a.program.transcript handler s = ⟨.getController id, reply⟩ :: rest := by
  cases ha with
  | get => exact ⟨_, _, rfl⟩
  | destroy hr =>
      subst hr
      exact ⟨_, _, rfl⟩

/-- The requests of an operation on one deployment: those of its calls, the lookup first. For every
object that is called by name the URI is what the call stands for up to the first number sign; it
addresses the object just if the name stands for itself. The lookup of another id goes to the same URI
just if the ids agree up to the first number sign. -/
theorem requests_for_deployment (clusterNamespace : String) {id : String} {a : Action}
    (ha : a.IsFor id) (s : Script) :
    let t := a.program.transcript (Script.handle clusterNamespace) s
    (a.program.run (Script.handle clusterNamespace) s).2.sent =
        s.sent ++ t.filterMap (fun x => (request clusterNamespace x.call).toOption) ∧
      (∃ reply rest, t = ⟨.getController id, reply⟩ :: rest) ∧
      (∀ x ∈ t, ∀ resource name r, object? x.call = some (resource, name) →
        request clusterNamespace x.call = .ok r →
        name ≠ "" ∧ r.uri.toList = upTo '#' (target clusterNamespace x.call).toList ∧
        (Addresses clusterNamespace resource name r.uri.toList ↔
          '?' ∉ clusterNamespace.toList ∧ '#' ∉ clusterNamespace.toList ∧ StandsForItself name)) ∧
      ∀ other r q, '#' ∉ clusterNamespace.toList →
        request clusterNamespace (.getController id) = .ok r →
        request clusterNamespace (.getController other) = .ok q →
        (r.uri = q.uri ↔ upTo '#' id.toList = upTo '#' other.toList) := by
  refine ⟨Script.sent_run clusterNamespace a.program s, transcript_of_isFor ha _ s, ?_, ?_⟩
  · intro x _ resource name r hobject hr
    exact ⟨name_ne_of_request hobject hr, (request_ok hr).2.2, addresses_iff hobject hr⟩
  · intro other r q hnamespace hr hq
    exact uri_getController_eq_iff hnamespace hr hq

/-- The request that looks a controller up. -/
def lookup (path : String) : Api.Request :=
  ⟨.get, "/api/v1/namespaces/default/replicationcontrollers/" ++ path, none⟩

/-- What is sent to look a deployment up when the server does not answer. -/
def sentFor (id : String) : List Api.Request :=
  ((Action.get id).program.run (Script.handle "default") { responses := [] }).2.sent

/-- For the id web one request is sent, and it addresses the controller web. -/
theorem requests_for_deployment_web :
    sentFor "web" = [lookup "web"] ∧
      Addresses "default" .controllers "web" (lookup "web").uri.toList := by
  obtain ⟨-, ⟨reply, rest, ht⟩, haddress, -⟩ :=
    requests_for_deployment "default" (Action.IsFor.get : (Action.get "web").IsFor "web")
      { responses := [] }
  refine ⟨rfl, (haddress ⟨.getController "web", reply⟩ ?_ .controllers "web" (lookup "web") rfl
    rfl).2.2.2 ⟨by decide, by decide, ?_⟩⟩
  · rw [ht]
    exact List.mem_cons_self
  · exact Text.standsForItself_of_isNetworkChar (by decide) (by decide)

/-- An id with a slash is looked up below another controller, and one with a number sign is looked up as
if it ended there, so the answer is about another deployment. -/
theorem lookup_leaves_object :
    sentFor "web/status" = [lookup "web/status"] ∧
    ¬ Addresses "default" .controllers "web/status" (lookup "web/status").uri.toList ∧
    sentFor "web#x" = [lookup "web"] ∧ sentFor "web" = [lookup "web"] ∧
    ¬ Addresses "default" .controllers "web#x" (lookup "web").uri.toList := by
  have hslash : ¬ StandsForItself "web/status" := fun h => absurd h.segment.2 (by decide)
  have hsign : ¬ StandsForItself "web#x" := fun h => absurd h.fragment (by decide)
  refine ⟨rfl, ?_, rfl, rfl, ?_⟩
  · have hobject : object? (.getController "web/status") = some (.controllers, "web/status") := rfl
    exact fun h => hslash ((addresses_iff hobject rfl).1 h).2.2
  · have hobject : object? (.getController "web#x") = some (.controllers, "web#x") := rfl
    exact fun h => hsign ((addresses_iff hobject rfl).1 h).2.2

end Adapter

end Stevedore
