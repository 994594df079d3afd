import Stevedore.Backend.Api
import Stevedore.Proofs.Name
/-!
# Where requests go

Names go into the URI of a request as they are, and selectors percent-encoded. A request can be made
wherever the URI does not exceed the greatest length and the names have the characters of network
names; it then goes to the URI that the call stands for, unabridged.

Main definitions:

- `Api.target`: the URI that a call stands for.
- `Api.method` and `Api.body?`: how the request of a call is made, and what it sends.
- `Api.Addressed`: names and length are such that a request can be made.

Main results:

- Theorem `request_of_addressed`: a request is made, to this URI.
- Theorem `request_of_tooLong`: no request is made to a URI that is too long.
-/

namespace Stevedore

/-! ## Paths and queries -/

namespace Uri

/-- In a query every character that is allowed is kept. -/
theorem parseTarget_query {cs : List Char} (h : cs.all isQueryChar) :
    parseTarget true cs = .ok cs := by
  induction cs with
  | nil => rfl
  | cons c rest ih =>
      rw [List.all_cons, Bool.and_eq_true] at h
      have hfragment : c ≠ '#' := by
        rintro rfl
        exact absurd h.1 (by decide)
      unfold parseTarget
      rw [if_neg hfragment, ih h.2]
      simp [h.1, Except.map]

/-- A path before a target belongs to it. -/
theorem parseTarget_path {path tail : List Char} (hpath : path.all isPathChar)
    (htail : parseTarget false tail = .ok tail) :
    parseTarget false (path ++ tail) = .ok (path ++ tail) := by
  induction path with
  | nil => exact htail
  | cons c rest ih =>
      rw [List.all_cons, Bool.and_eq_true] at hpath
      have hfragment : c ≠ '#' := by
        rintro rfl
        exact absurd hpath.1 (by decide)
      have hquery : c ≠ '?' := by
        rintro rfl
        exact absurd hpath.1 (by decide)
      rw [List.cons_append]
      unfold parseTarget
      rw [if_neg hfragment, ih hpath.2]
      simp [hpath.1, hquery, Except.map]

/-- A question mark and a query are a target. -/
theorem parseTarget_questionMark {query : List Char} (h : query.all isQueryChar) :
    parseTarget false ('?' :: query) = .ok ('?' :: query) := by
  unfold parseTarget
  rw [if_neg (by decide), parseTarget_query h]
  rfl

/-- A path is parsed as itself if it is short enough and its characters are allowed. -/
theorem parse_of_parseTarget {s : String} {rest : List Char} (hs : s.toList = '/' :: rest)
    (hshort : s.utf8ByteSize ≤ maxLength) (h : parseTarget false s.toList = .ok s.toList) :
    parse s = .ok { target := s.toList } := by
  unfold parse
  rw [hs] at h ⊢
  rw [if_neg (Nat.not_lt.2 hshort)]
  simp only [h]

end Uri

/-! ## Characters -/

/-- The characters of network names are allowed in paths. -/
theorem Name.isPathChar_of_isNetworkChar {c : Char} (h : isNetworkChar c) : Uri.isPathChar c := by
  rw [isNetworkChar_iff, eq_hyphen_iff] at h
  unfold Uri.isPathChar
  simp only [Bool.or_eq_true, Bool.and_eq_true, decide_eq_true_eq, beq_iff_eq]
  omega

namespace Text

/-- A byte that a query may hold as it is stands for a character of queries. -/
theorem isQueryChar_of_isUnreserved {b : UInt8} (h : isUnreserved b) :
    Uri.isQueryChar (Char.ofNat b.toNat) := by
  unfold isUnreserved at h
  generalize Char.ofNat b.toNat = c at h ⊢
  simp only [Bool.or_eq_true, beq_iff_eq] at h
  rcases h with (((h | rfl) | rfl) | rfl) | rfl
  · have hrange := (Name.isKept_iff c).1 h
    unfold Uri.isQueryChar
    simp only [Bool.or_eq_true, Bool.and_eq_true, decide_eq_true_eq, beq_iff_eq]
    omega
  all_goals decide

/-- The digits of an escape are characters of queries. -/
theorem isQueryChar_upperHexDigit : ∀ n < 16, Uri.isQueryChar (upperHexDigit n) := by
  decide

/-- However a byte is encoded, only characters of queries come of it. -/
theorem all_isQueryChar_formEncodeByte (b : UInt8) : (formEncodeByte b).all Uri.isQueryChar := by
  have hb : b.toNat < 256 := b.toNat_lt
  unfold formEncodeByte
  split
  · decide
  · split
    · next hunreserved =>
        rw [List.all_cons, isQueryChar_of_isUnreserved hunreserved]
        rfl
    · have hhigh := isQueryChar_upperHexDigit (b.toNat / 16) (by omega)
      have hlow := isQueryChar_upperHexDigit (b.toNat % 16) (by omega)
      simp only [List.all_cons, List.all_nil, hhigh, hlow]
      decide

/-- What is percent-encoded may stand in a query. -/
theorem all_isQueryChar_formEncode (s : String) : (formEncode s).toList.all Uri.isQueryChar := by
  rw [formEncode, String.toList_ofList, List.all_flatMap, List.all_eq_true]
  exact fun b _ => all_isQueryChar_formEncodeByte b

end Text

/-! ## Targets -/

namespace Api

open Backend Cluster

/-- The name by which a call addresses an object. -/
def address? : Call → Option String
  | .getController name => some name
  | .updateController c => some c.nameOrEmpty
  | .deleteController name => some name
  | .deleteService name => some name
  | _ => none

/-- The path and the query that a call stands for. -/
def targetParts (clusterNamespace : String) : Call → String × Option String
  | .listControllers => (collection clusterNamespace .controllers, some "")
  | .getController name => (collection clusterNamespace .controllers ++ "/" ++ name, none)
  | .createController _ => (collection clusterNamespace .controllers, some "")
  | .updateController c =>
    (collection clusterNamespace .controllers ++ "/" ++ c.nameOrEmpty, some "")
  | .deleteController name => (collection clusterNamespace .controllers ++ "/" ++ name, some "")
  | .listPods selector => (collection clusterNamespace .pods, some (labelQuery selector))
  | .createService _ => (collection clusterNamespace .services, some "")
  | .listServices selector => (collection clusterNamespace .services, some (labelQuery selector))
  | .deleteService name => (collection clusterNamespace .services ++ "/" ++ name, some "")
  | .health => ("/api/v1/nodes", some "&limit=1")

/-- The URI that a call stands for. -/
def target (clusterNamespace : String) (call : Call) : String :=
  match targetParts clusterNamespace call with
  | (path, none) => path
  | (path, some query) => path ++ "?" ++ query

/-- The object of a call has a name of the characters of network names, and its URI does not exceed the
greatest length. -/
structure Addressed (clusterNamespace : String) (call : Call) : Prop where
  named : ∀ name ∈ address? call, name ≠ "" ∧ name.toList.all Name.isNetworkChar
  short : (target clusterNamespace call).utf8ByteSize ≤ Uri.maxLength

instance (clusterNamespace : String) (call : Call) :
    Decidable (Addressed clusterNamespace call) :=
  decidable_of_iff
    ((∀ name ∈ address? call, name ≠ "" ∧ name.toList.all Name.isNetworkChar) ∧
      (target clusterNamespace call).utf8ByteSize ≤ Uri.maxLength)
    ⟨fun h => ⟨h.1, h.2⟩, fun h => ⟨h.named, h.short⟩⟩

section

variable {clusterNamespace : String}

/-! ### Characters of a target -/

/-- The text is a path from the root. -/
def IsPath (s : String) : Prop :=
  (∃ rest, s.toList = '/' :: rest) ∧ s.toList.all Uri.isPathChar

/-- A path stays one when characters that are allowed are added. -/
theorem IsPath.append {s : String} (hs : IsPath s) {more : String}
    (hmore : more.toList.all Uri.isPathChar) : IsPath (s ++ more) := by
  obtain ⟨⟨rest, hrest⟩, hchars⟩ := hs
  refine ⟨⟨rest ++ more.toList, by rw [String.toList_append, hrest, List.cons_append]⟩, ?_⟩
  rw [String.toList_append, List.all_append, hchars, hmore]
  rfl

/-- The objects of a kind in an admitted namespace have a path. -/
theorem isPath_collection (hnamespace : clusterNamespace.toList.all Uri.isPathChar)
    (r : Resource) : IsPath (collection clusterNamespace r) := by
  have hroot : IsPath "/api/v1/namespaces/" := ⟨⟨_, rfl⟩, by decide⟩
  have hplural : r.plural.toList.all Uri.isPathChar := by
    cases r <;> decide
  exact ((hroot.append hnamespace).append (by decide)).append hplural

/-- An object with a network name has a path. -/
theorem isPath_named (hnamespace : clusterNamespace.toList.all Uri.isPathChar) (r : Resource)
    {name : String} (hname : name.toList.all Name.isNetworkChar) :
    IsPath (collection clusterNamespace r ++ "/" ++ name) := by
  refine ((isPath_collection hnamespace r).append (by decide)).append ?_
  rw [List.all_eq_true] at hname ⊢
  exact fun c hc => Name.isPathChar_of_isNetworkChar (hname c hc)

/-- Every call has a path in an admitted namespace, if its names are network names. -/
theorem isPath_targetParts (hnamespace : clusterNamespace.toList.all Uri.isPathChar)
    {call : Call} (hnamed : ∀ name ∈ address? call, name.toList.all Name.isNetworkChar) :
    IsPath (targetParts clusterNamespace call).1 := by
  cases call with
  | listControllers => exact isPath_collection hnamespace _
  | getController name => exact isPath_named hnamespace _ (hnamed name rfl)
  | createController c => exact isPath_collection hnamespace _
  | updateController c => exact isPath_named hnamespace _ (hnamed _ rfl)
  | deleteController name => exact isPath_named hnamespace _ (hnamed name rfl)
  | listPods selector => exact isPath_collection hnamespace _
  | createService v => exact isPath_collection hnamespace _
  | listServices selector => exact isPath_collection hnamespace _
  | deleteService name => exact isPath_named hnamespace _ (hnamed name rfl)
  | health =>
      have hnodes : IsPath "/api/v1/nodes" := ⟨⟨_, rfl⟩, by decide⟩
      exact hnodes

/-- A selector becomes a query, whatever its labels are. -/
theorem all_isQueryChar_labelQuery (selector : Selector) :
    (labelQuery selector).toList.all Uri.isQueryChar := by
  have hkey : "&labelSelector=".toList.all Uri.isQueryChar := by decide
  unfold labelQuery
  split
  · rfl
  · rw [String.toList_append, List.all_append, hkey, Text.all_isQueryChar_formEncode]
    rfl

/-- The query of every call holds only characters of queries. -/
theorem all_isQueryChar_of_targetParts {call : Call} {query : String}
    (h : (targetParts clusterNamespace call).2 = some query) :
    query.toList.all Uri.isQueryChar := by
  cases call with
  | getController name => contradiction
  | listPods selector =>
      obtain rfl := Option.some.inj h
      exact all_isQueryChar_labelQuery selector
  | listServices selector =>
      obtain rfl := Option.some.inj h
      exact all_isQueryChar_labelQuery selector
  | health =>
      obtain rfl := Option.some.inj h
      decide
  | _ =>
      obtain rfl := Option.some.inj h
      rfl

/-! ### Requests -/

/-- The target of a call that is addressed properly is parsed as itself. -/
theorem parse_target (hnamespace : clusterNamespace.toList.all Uri.isPathChar) {call : Call}
    (h : Addressed clusterNamespace call) :
    Uri.parse (target clusterNamespace call) =
      .ok { target := (target clusterNamespace call).toList } := by
  have hpath := isPath_targetParts hnamespace fun name hname => (h.named name hname).2
  obtain ⟨⟨rest, hrest⟩, hchars⟩ := hpath
  have hshort := h.short
  unfold target at hshort ⊢
  split at hshort
  · next path heq =>
      simp only [heq] at hrest hchars ⊢
      refine Uri.parse_of_parseTarget hrest hshort ?_
      have htail : Uri.parseTarget false [] = .ok [] := rfl
      simpa using Uri.parseTarget_path hchars htail
  · next path query heq =>
      simp only [heq] at hrest hchars ⊢
      have hquery : query.toList.all Uri.isQueryChar :=
        all_isQueryChar_of_targetParts (by rw [heq])
      have htext : (path ++ "?" ++ query).toList = path.toList ++ '?' :: query.toList := by
        simp
      have hroot : (path ++ "?" ++ query).toList = '/' :: (rest ++ '?' :: query.toList) := by
        rw [htext, hrest, List.cons_append]
      refine Uri.parse_of_parseTarget hroot hshort ?_
      rw [htext]
      exact Uri.parseTarget_path hchars (Uri.parseTarget_questionMark hquery)

/-- A request for a name that is not empty goes to the path with this name. -/
theorem namedRequest_of_name {method : Method} {path name suffix : String} {body : Option Json}
    (hname : name ≠ "") :
    namedRequest method path name suffix body =
      requestTo method (path ++ "/" ++ name ++ suffix) body := by
  unfold namedRequest
  rw [if_neg (by simpa using hname)]

/-- The method of the request of a call. -/
def method : Call → Method
  | .createController _ | .createService _ => .post
  | .updateController _ => .put
  | .deleteController _ | .deleteService _ => .delete
  | _ => .get

/-- What the request of a call sends. -/
def body? : Call → Option Json
  | .createController c | .updateController c => some c.toJson
  | .createService v => some v.toJson
  | .deleteController _ | .deleteService _ => some (.object [])
  | _ => none

/-- The request of a call whose object has a name goes to the URI that the call stands for. -/
theorem request_eq_requestTo (clusterNamespace : String) {call : Call}
    (hnamed : ∀ name ∈ address? call, name ≠ "") :
    request clusterNamespace call =
      requestTo (method call) (target clusterNamespace call) (body? call) := by
  cases call with
  | listControllers => rfl
  | getController name =>
      refine (namedRequest_of_name (hnamed name rfl)).trans ?_
      simp [target, targetParts, method, body?]
  | createController c => simp [request, createRequest, target, targetParts, method, body?]
  | updateController c =>
      have hne : c.nameOrEmpty ≠ "" := hnamed _ rfl
      cases hname : c.metadata.name with
      | none => simp [Controller.nameOrEmpty, hname] at hne
      | some name =>
          have hvalue : c.nameOrEmpty = name := by simp [Controller.nameOrEmpty, hname]
          rw [hvalue] at hne
          simp only [request, hname]
          refine (namedRequest_of_name hne).trans ?_
          simp [target, targetParts, hvalue, method, body?]
  | deleteController name =>
      refine (namedRequest_of_name (hnamed name rfl)).trans ?_
      simp [target, targetParts, method, body?]
  | listPods selector => rfl
  | createService v => simp [request, createRequest, target, targetParts, method, body?]
  | listServices selector => rfl
  | deleteService name =>
      refine (namedRequest_of_name (hnamed name rfl)).trans ?_
      simp [target, targetParts, method, body?]
  | health => simp [request, target, targetParts, method, body?]

/-- A request is made, to the URI that the call stands for. -/
theorem request_of_addressed (hnamespace : clusterNamespace.toList.all Uri.isPathChar)
    {call : Call} (h : Addressed clusterNamespace call) :
    ∃ r, request clusterNamespace call = .ok r ∧ r.uri = target clusterNamespace call := by
  have hrequest := request_eq_requestTo clusterNamespace fun name hname => (h.named name hname).1
  refine ⟨⟨method call, target clusterNamespace call, body? call⟩, ?_, rfl⟩
  rw [hrequest, requestTo, parse_target hnamespace h]
  simp only [String.ofList_toList]

/-- No request is made to a URI that is too long. -/
theorem request_of_tooLong {call : Call} (hnamed : ∀ name ∈ address? call, name ≠ "")
    (hlong : Uri.maxLength < (target clusterNamespace call).utf8ByteSize) :
    request clusterNamespace call = .error (.badUri .tooLong) := by
  rw [request_eq_requestTo clusterNamespace hnamed, requestTo, Uri.parse, if_pos hlong]

end

end Api

end Stevedore
