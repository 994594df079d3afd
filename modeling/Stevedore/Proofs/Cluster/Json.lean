import Stevedore.Cluster.Json
import Stevedore.Proofs.Json.Members
import Stevedore.Proofs.Json.Tree
/-!
# Cluster objects read back

What is written of an object of the cluster is read back as that object, with every distinction between
what is absent and what is present but empty. Of a list of objects the items are read back, wherever
they stand among its members.

Main definition:

- `Cluster.ListMembers`: the members of a list of objects.

Main results:

- Theorem `Labels.ofList_entries`: labels are put together again from their entries.
- Theorems `Controller.readsBack`, `NetworkService.readsBack`, `Pod.readsBack` and `Node.readsBack`: the
  objects.
- Theorem `reads_listing`: lists of objects.
-/

namespace Stevedore

open Json (ReadsBack readString readInt32 readList)

/-! ## Labels -/

/-- An entry with the greatest key is the last one. -/
theorem insertEntry_of_greatest {key value : String} {entries : List (String × String)}
    (h : ∀ e ∈ entries, e.1 < key) : insertEntry key value entries = entries ++ [(key, value)] := by
  induction entries with
  | nil => rfl
  | cons e rest ih =>
      rw [List.forall_mem_cons] at h
      obtain ⟨k, v⟩ := e
      have hlt : ¬ key < k := String.lt_asymm h.1
      have hne : key ≠ k := fun heq => String.lt_irrefl k (heq ▸ h.1)
      unfold insertEntry
      rw [if_neg hlt, if_neg hne, ih h.2]
      rfl

/-- Entries with ascending keys are entered one after the other at the end. -/
theorem Labels.entries_foldl_insert (entries : List (String × String)) (l : Labels)
    (h : Ascending (l.entries ++ entries)) :
    (entries.foldl (fun l e => l.insert e.1 e.2) l).entries = l.entries ++ entries := by
  induction entries generalizing l with
  | nil => simp
  | cons e rest ih =>
      have hgreatest : ∀ x ∈ l.entries, x.1 < e.1 := fun x hx =>
        (List.pairwise_append.1 h).2.2 x hx e List.mem_cons_self
      have hinsert : (l.insert e.1 e.2).entries = l.entries ++ [e] :=
        insertEntry_of_greatest hgreatest
      rw [List.foldl_cons, ih (l.insert e.1 e.2) (by simpa [hinsert] using h), hinsert]
      simp

/-- Labels are put together again from their entries. -/
theorem Labels.ofList_entries (l : Labels) : Labels.ofList l.entries = l := by
  have hentries := Labels.entries_foldl_insert l.entries .empty l.ascending
  obtain ⟨entries, hascending⟩ := l
  unfold Labels.ofList
  generalize entries.foldl _ _ = m at *
  obtain ⟨mentries, mascending⟩ := m
  simpa [Labels.empty] using hentries

namespace Cluster

open Json.Record (takes_always takes_whenPresent takes_fixed readsBack_of_takes)

/-- Labels are read back from what is written of them. -/
theorem readsBack_labels : ReadsBack readLabels labelsToJson := by
  intro l
  have hread : Json.Reads (Json.readEntries readString) (labelsToJson l).bytes l.entries :=
    Json.reads_entries fun e _ => Json.reads_string e.2
  have hmap := hread.map Labels.ofList
  rw [Labels.ofList_entries] at hmap
  exact ⟨hmap, Json.notNull_object _⟩

/-- A number of 32 bits is read back from its JSON. -/
theorem readsBack_int32 : ReadsBack readInt32 int32ToJson := fun n =>
  ⟨Json.reads_int32 n, Json.notNull_integer _⟩

/-- The metadata of an object is read back from its JSON. -/
theorem ObjectMeta.readsBack : ReadsBack record.read toJson := by
  refine readsBack_of_takes (fun x => ?_) rfl
  refine takes_whenPresent rfl rfl readsBack_labels rfl (fun seen => ?_) []
  refine takes_whenPresent rfl rfl Json.readsBack_string rfl (fun seen => ?_) seen
  refine takes_whenPresent rfl rfl Json.readsBack_string rfl (fun seen => ?_) seen
  refine takes_whenPresent rfl rfl Json.readsBack_string rfl (fun seen => ?_) seen
  exact .nil seen x

/-! ## Replication controllers -/

/-- A port of a container is read back from its JSON. -/
theorem ContainerPort.readsBack : ReadsBack record.read toJson := by
  refine readsBack_of_takes (fun x => ?_) rfl
  refine takes_always rfl rfl readsBack_int32 (fun seen => ?_) []
  refine takes_whenPresent rfl rfl readsBack_int32 rfl (fun seen => ?_) seen
  refine takes_whenPresent rfl rfl Json.readsBack_string rfl (fun seen => ?_) seen
  exact .nil seen x

/-- A variable of a container is read back from its JSON. -/
theorem EnvVar.readsBack : ReadsBack record.read toJson := by
  refine readsBack_of_takes (fun x => ?_) rfl
  refine takes_always rfl rfl Json.readsBack_string (fun seen => ?_) []
  refine takes_whenPresent rfl rfl Json.readsBack_string rfl (fun seen => ?_) seen
  exact .nil seen x

/-- A container is read back from its JSON. -/
theorem Container.readsBack : ReadsBack record.read toJson := by
  refine readsBack_of_takes (fun x => ?_) rfl
  refine takes_whenPresent rfl rfl Json.readsBack_string.list rfl (fun seen => ?_) []
  refine takes_whenPresent rfl rfl EnvVar.readsBack.list rfl (fun seen => ?_) seen
  refine takes_whenPresent rfl rfl Json.readsBack_string rfl (fun seen => ?_) seen
  refine takes_always rfl rfl Json.readsBack_string (fun seen => ?_) seen
  refine takes_whenPresent rfl rfl ContainerPort.readsBack.list rfl (fun seen => ?_) seen
  exact .nil seen x

/-- What is asked of a pod is read back from its JSON. -/
theorem PodSpec.readsBack : ReadsBack record.read toJson := by
  refine readsBack_of_takes (fun x => ?_) rfl
  refine takes_always rfl rfl Container.readsBack.list (fun seen => ?_) []
  exact .nil seen x

/-- A template of pods is read back from its JSON. -/
theorem PodTemplate.readsBack : ReadsBack record.read toJson := by
  refine readsBack_of_takes (fun x => ?_) rfl
  refine takes_whenPresent rfl rfl ObjectMeta.readsBack rfl (fun seen => ?_) []
  refine takes_whenPresent rfl rfl PodSpec.readsBack rfl (fun seen => ?_) seen
  exact .nil seen x

/-- What is asked of a controller is read back from its JSON. -/
theorem ControllerSpec.readsBack : ReadsBack record.read toJson := by
  refine readsBack_of_takes (fun x => ?_) rfl
  refine takes_whenPresent rfl rfl readsBack_int32 rfl (fun seen => ?_) []
  refine takes_whenPresent rfl rfl readsBack_labels rfl (fun seen => ?_) seen
  refine takes_whenPresent rfl rfl PodTemplate.readsBack rfl (fun seen => ?_) seen
  exact .nil seen x

/-- What was observed of a controller is read back from its JSON. -/
theorem ControllerStatus.readsBack : ReadsBack record.read toJson := by
  refine readsBack_of_takes (fun x => ?_) rfl
  refine takes_whenPresent rfl rfl readsBack_int32 rfl (fun seen => ?_) []
  refine takes_always rfl rfl readsBack_int32 (fun seen => ?_) seen
  exact .nil seen x

/-- A controller is read back from its JSON. -/
theorem Controller.readsBack : ReadsBack record.read toJson := by
  refine readsBack_of_takes (fun x => ?_) rfl
  refine takes_fixed rfl rfl (fun seen => ?_) []
  refine takes_fixed rfl rfl (fun seen => ?_) seen
  refine takes_always rfl rfl ObjectMeta.readsBack (fun seen => ?_) seen
  refine takes_whenPresent rfl rfl ControllerSpec.readsBack rfl (fun seen => ?_) seen
  refine takes_whenPresent rfl rfl ControllerStatus.readsBack rfl (fun seen => ?_) seen
  exact .nil seen x

/-! ## Network services -/

/-- The port that traffic goes to, by number or by name, is read back from its JSON. -/
theorem TargetPort.readsBack : ReadsBack read toJson := by
  intro t
  cases t with
  | number n =>
      unfold toJson int32ToJson
      refine ⟨Json.reads_atValue (Json.opens_integer n.toInt) fun rest p hrest => ?_,
        Json.notNull_integer n.toInt⟩
      have hlow : -2147483648 ≤ n.toInt := Int32.le_toInt n
      have hhigh : n.toInt < 2147483648 := Int32.toInt_lt n
      have hfits : Json.Fits n.toInt := ⟨by omega, by omega⟩
      obtain ⟨q, hrun⟩ := Json.readNumber_integer hfits hrest p
      obtain ⟨c, hhead, hc⟩ := Json.exists_head?_integer n.toInt rest p
      have hquote : c ≠ '"' := by
        rintro rfl
        simp at hc
      refine ⟨q, ?_⟩
      rw [hhead, if_neg (by simpa using hquote), ← hhead, if_pos (Json.at_integer n.toInt rest p), hrun]
      change (if -2147483648 ≤ n.toInt ∧ n.toInt ≤ 2147483647 then _ else _) = _
      rw [if_pos ⟨hlow, by omega⟩, Int32.ofInt_toInt]
  | name s =>
      unfold toJson
      refine ⟨Json.reads_atValue (Json.opens_string s) fun rest p _ => ?_, Json.notNull_string s⟩
      obtain ⟨q, hrun⟩ := Json.readLiteral_writes (Json.writes_literalBytes s) rest (p.after 0x22)
      refine ⟨q, ?_⟩
      rw [Json.bytes_string, List.cons_append, List.append_assoc]
      change Json.Reader.map name Json.readLiteral
        ⟨Json.literalBytes s ++ 0x22 :: rest, p.after 0x22⟩ = _
      rw [Json.Reader.map, hrun]

/-- A port of a network service is read back from its JSON. -/
theorem ServicePort.readsBack : ReadsBack record.read toJson := by
  refine readsBack_of_takes (fun x => ?_) rfl
  refine takes_always rfl rfl readsBack_int32 (fun seen => ?_) []
  refine takes_whenPresent rfl rfl Json.readsBack_string rfl (fun seen => ?_) seen
  refine takes_whenPresent rfl rfl TargetPort.readsBack rfl (fun seen => ?_) seen
  exact .nil seen x

/-- What is asked of a network service is read back from its JSON. -/
theorem NetworkServiceSpec.readsBack : ReadsBack record.read toJson := by
  refine readsBack_of_takes (fun x => ?_) rfl
  refine takes_whenPresent rfl rfl Json.readsBack_string.list rfl (fun seen => ?_) []
  refine takes_whenPresent rfl rfl ServicePort.readsBack.list rfl (fun seen => ?_) seen
  refine takes_whenPresent rfl rfl readsBack_labels rfl (fun seen => ?_) seen
  exact .nil seen x

/-- A network service is read back from its JSON. -/
theorem NetworkService.readsBack : ReadsBack record.read toJson := by
  refine readsBack_of_takes (fun x => ?_) rfl
  refine takes_fixed rfl rfl (fun seen => ?_) []
  refine takes_fixed rfl rfl (fun seen => ?_) seen
  refine takes_always rfl rfl ObjectMeta.readsBack (fun seen => ?_) seen
  refine takes_whenPresent rfl rfl NetworkServiceSpec.readsBack rfl (fun seen => ?_) seen
  exact .nil seen x

/-! ## Pods and nodes -/

/-- What was observed of a pod is read back from its JSON. -/
theorem PodStatus.readsBack : ReadsBack record.read toJson := by
  refine readsBack_of_takes (fun x => ?_) rfl
  refine takes_whenPresent rfl rfl Json.readsBack_string rfl (fun seen => ?_) []
  exact .nil seen x

/-- A pod is read back from its JSON. -/
theorem Pod.readsBack : ReadsBack record.read toJson := by
  refine readsBack_of_takes (fun x => ?_) rfl
  refine takes_fixed rfl rfl (fun seen => ?_) []
  refine takes_fixed rfl rfl (fun seen => ?_) seen
  refine takes_always rfl rfl ObjectMeta.readsBack (fun seen => ?_) seen
  refine takes_whenPresent rfl rfl PodStatus.readsBack rfl (fun seen => ?_) seen
  exact .nil seen x

/-- A node is read back from its JSON. -/
theorem Node.readsBack : ReadsBack record.read toJson := by
  refine readsBack_of_takes (fun x => ?_) rfl
  refine takes_fixed rfl rfl (fun seen => ?_) []
  refine takes_fixed rfl rfl (fun seen => ?_) seen
  refine takes_always rfl rfl ObjectMeta.readsBack (fun seen => ?_) seen
  exact .nil seen x

/-! ## Lists -/

/-- A member of the metadata of a list. -/
inductive ListMetaMember : String × Json → Prop
  | text {key : String} (hkey : key ∈ ["continue", "resourceVersion", "selfLink"]) (s : String) :
      ListMetaMember (key, .string s)
  | remaining {n : Int} (hn : -9223372036854775808 ≤ n ∧ n ≤ 9223372036854775807) :
      ListMetaMember ("remainingItemCount", .integer n)

/-- A member of a list of objects. -/
inductive ListMember (write : α → Json) (items : List α) : String × Json → Prop
  | items : ListMember write items ("items", .list write items)
  | metadata {members : List (String × Json)} (h : ∀ m ∈ members, ListMetaMember m)
      (hdistinct : (members.map (·.1)).Nodup) : ListMember write items ("metadata", .object members)
  | other {key : String} {j : Json} (hkey : key ∉ ["metadata", "items"])
      (hj : Json.Plain (Json.maxDepth - 1) j) : ListMember write items (key, j)

/-- The members of a list of objects, in any order. -/
structure ListMembers (write : α → Json) (items : List α) (members : List (String × Json)) :
    Prop where
  distinct : (members.map (·.1)).Nodup
  known : ∀ m ∈ members, ListMember write items m
  complete : "items" ∈ members.map (·.1)

/-- A member of the metadata of a list is read without effect. -/
theorem ListMetaMember.enters {m : String × Json} (h : ListMetaMember m) :
    Json.Record.Enters listMeta m.1 m.2.bytes () () := by
  cases h with
  | text hkey s =>
      have hread := (Json.readsBack_string.reads_some s).map fun _ => ()
      simp only [List.mem_cons, List.not_mem_nil, or_false] at hkey
      rcases hkey with rfl | rfl | rfl <;> exact .known rfl hread
  | @remaining n hn =>
      have hread : Json.Reads (Json.readInteger "i64" (-9223372036854775808) 9223372036854775807)
          (Json.bytes (.integer n)) n := Json.reads_integer hn.1 hn.2 ⟨hn.1, by omega⟩
      exact .known rfl ((hread.optional (Json.notNull_integer n)).map fun _ => ())

/-- A list of objects is read back. -/
theorem reads_listing {read : Json.Reader α} {write : α → Json} (hread : ReadsBack read write)
    {items : List α} {members : List (String × Json)} (h : ListMembers write items members) :
    Json.Reads (listing read).read (Json.bytes (.object members)) items := by
  let state (seen : List String) : List α := if "items" ∈ seen then items else []
  have hmembers : ∀ m ∈ members, ∀ seen,
      Json.Record.Enters (listing read) m.1 m.2.bytes (state seen) (state (m.1 :: seen)) := by
    intro m hm seen
    cases h.known m hm with
    | items =>
        have hstate : state ("items" :: seen) = items := by simp [state]
        rw [hstate]
        exact .known rfl ((hread.list.reads_some items).map fun v => v.getD [])
    | metadata hmeta hdistinct =>
        have hstate : state ("metadata" :: seen) = state seen := by simp [state]
        have hreads := Json.Record.reads_unit (fun m hm => (hmeta m hm).enters) hdistinct rfl
        rw [hstate]
        exact .known rfl (hreads.map fun _ => state seen)
    | @other key j hkey hj =>
        have hstate : state (key :: seen) = state seen := by
          have hne : "items" ≠ key := fun heq => hkey (by simp [heq])
          simp [state, hne]
        rw [hstate]
        exact .unknown (Json.Record.member?_eq_none hkey) ((Json.reads_tree hj).map fun _ => ())
  have hstate : state (members.map (·.1)).reverse = items := if_pos (by simpa using h.complete)
  rw [← hstate]
  refine Json.Record.reads_of_states hmembers h.distinct rfl ?_
  simpa [listing, Json.Member.optional, Json.Member.mandatory] using h.complete

/-- The list of objects of a kind as the cluster writes it. -/
theorem listMembers_listingToJson (kind : String) (write : α → Json) (items : List α) :
    ∃ members, listingToJson kind write items = .object members ∧
      ListMembers write items members := by
  refine ⟨[("apiVersion", .string "v1"), ("kind", .string (kind ++ "List")),
    ("items", .list write items), ("metadata", .object [])], rfl, by simp, ?_, by simp⟩
  intro m hm
  simp only [List.mem_cons, List.not_mem_nil, or_false] at hm
  rcases hm with rfl | rfl | rfl | rfl
  · exact .other (by decide) (.scalar _ (.string _))
  · exact .other (by decide) (.scalar _ (.string _))
  · exact .items
  · exact .metadata (by simp) .nil

end Cluster

end Stevedore
