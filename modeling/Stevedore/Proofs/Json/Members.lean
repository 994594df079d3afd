import Stevedore.Proofs.Json.Composite
/-!
# Records from their members

A record is put together member by member. Where an object was written from a record, its members come
in the order in which they are written, and a member that is absent leaves the record as it is. Where
members may come in any order, the record after each of them is determined by the keys that were there.

Main definitions:

- `Json.present`, `Json.spelled`: the members of an object that are not left out, and their texts.
- `Json.ReadsBack`: a reader undoes a writer.

Main results:

- Theorems `Record.takes_whenPresent`, `Record.takes_always`, `Record.takes_mandatory` and
  `Record.takes_fixed`: what one written member makes of a record.
- Theorems `Record.readsBack_of_takes` and `Record.readsBack_of_complete`: a record from all that is
  written of it.
- Theorem `Record.exists_takes`: what holds of a record after each of its members.
- Theorem `Record.reads_of_states`: a record from members in any order.
-/

namespace Stevedore.Json

/-- The members that are not left out. -/
def present (members : List (String × Option Json)) : List (String × Json) :=
  members.filterMap fun (key, value) => value.map (key, ·)

/-- The compact texts of the members that are not left out. -/
def spelled (members : List (String × Option Json)) : List (String × MemberText) :=
  compactMembers (present members)

/-! ## Values read back -/

/-- What is written of a value is read back as that value, and it is not `null`. -/
def ReadsBack (read : Reader α) (write : α → Json) : Prop :=
  ∀ a, Reads read (bytes (write a)) a ∧ NotNull (bytes (write a))

/-- A string is read back from what is written of it. -/
theorem readsBack_string : ReadsBack readString .string := fun s =>
  ⟨reads_string s, notNull_string s⟩

/-- A list is read back if its items are. -/
theorem ReadsBack.list {read : Reader α} {write : α → Json} (h : ReadsBack read write) :
    ReadsBack (readList read) (.list write) := fun xs =>
  ⟨reads_list fun x _ => (h x).1, notNull_array (xs.map write)⟩

/-- What is written is read back where it might be absent. -/
theorem ReadsBack.reads_some {read : Reader α} {write : α → Json} (h : ReadsBack read write)
    (a : α) : Reads (readOptional read) (bytes (write a)) (some a) :=
  (h a).1.optional (h a).2

namespace Record

variable {σ : Type} {r : Record σ} {key : String} {s t : σ}
  {rest : List (String × Option Json)}

/-! ## Members in the order in which they are written -/

/-- A member that is written, and enters its value. -/
theorem takes_entered {j : Json} {seen : List String} {u : σ}
    (hnew : r.lastCounts = true ∨ r.member? key = none ∨ key ∉ seen)
    (hmember : Enters r key (bytes j) s u) (hrest : Takes r (key :: seen) u (spelled rest) t) :
    Takes r seen s (spelled (always key j :: rest)) t :=
  .cons hnew hmember hrest

section Written

variable {read : Reader α} {write : α → Json} {set : Option α → σ → σ}

/-- A member that is always there. -/
theorem takes_always (hlast : r.lastCounts = true)
    (hmember : r.member? key = some (.optional key (readOptional read) set))
    (hread : ReadsBack read write) {a : α}
    (hrest : ∀ seen, Takes r seen (set (some a) s) (spelled rest) t) (seen : List String) :
    Takes r seen s (spelled (always key (write a) :: rest)) t :=
  takes_entered (.inl hlast) (.known hmember ((hread.reads_some a).map (set · s)))
    (hrest (key :: seen))

/-- A member that is there where its value is present. Absent, it leaves the record as it is. -/
theorem takes_whenPresent (hlast : r.lastCounts = true)
    (hmember : r.member? key = some (.optional key (readOptional read) set))
    (hread : ReadsBack read write) (habsent : set none s = s) {value : Option α}
    (hrest : ∀ seen, Takes r seen (set value s) (spelled rest) t) (seen : List String) :
    Takes r seen s (spelled (whenPresent key write value :: rest)) t := by
  cases value with
  | none =>
      rw [habsent] at hrest
      exact hrest seen
  | some a => exact takes_always hlast hmember hread hrest seen

end Written

/-- A member that has to be there, in a record in which no key may be repeated. -/
theorem takes_mandatory {read : Reader α} {set : α → σ → σ}
    (hmember : r.member? key = some (.mandatory key read set)) {j : Json} {a : α}
    (hread : Reads read (bytes j) a) {seen : List String} (hnew : key ∉ seen)
    (hrest : Takes r (key :: seen) (set a s) (spelled rest) t) :
    Takes r seen s (spelled (always key j :: rest)) t :=
  takes_entered (.inr (.inr hnew)) (.known hmember (hread.map (set · s))) hrest

/-- A member that says the same wherever it is there. -/
theorem takes_fixed (hlast : r.lastCounts = true) {expected : String}
    (hmember : r.member? key = some (.fixed key expected))
    (hrest : ∀ seen, Takes r seen s (spelled rest) t) (seen : List String) :
    Takes r seen s (spelled (always key (.string expected) :: rest)) t := by
  have hread : Reads ((Member.fixed key expected).read s) (bytes (.string expected)) s := by
    refine ⟨opens_string expected, fun gap rest p hends => ?_⟩
    obtain ⟨q, hrun⟩ := (reads_string expected).run gap rest p hends
    refine ⟨q, ?_⟩
    unfold Member.fixed
    simp only [hrun, if_pos]
  exact takes_entered (.inl hlast) (.known hmember hread) (hrest (key :: seen))

/-! ## Members in any order -/

/-- A member that may be left out enters its value. -/
theorem enters_optional {read : Reader α} {set : α → σ → σ}
    (hmember : r.member? key = some (.optional key read set)) {text : List UInt8} {a : α}
    (hread : Reads read text a) (hset : set a s = t) : Enters r key text s t :=
  hset ▸ .known hmember (hread.map (set · s))

/-- Members may come in any order if each of them keeps what is known of the record after members with
the keys that were there. -/
theorem exists_takes {Known : List String → σ → Prop} {members : List (String × MemberText)}
    (hmembers : ∀ m ∈ members, ∀ seen s, Known seen s →
      ∃ t, Enters r m.1 m.2.value.text s t ∧ Known (m.1 :: seen) t)
    (hdistinct : members.Pairwise fun m m' => m'.1 = m.1 → r.member? m'.1 = none)
    {seen : List String} {s : σ} (hs : Known seen s)
    (hseen : ∀ m ∈ members, m.1 ∈ seen → r.member? m.1 = none) :
    ∃ t, Takes r seen s members t ∧ Known ((members.map (·.1)).reverse ++ seen) t := by
  induction members generalizing seen s with
  | nil => exact ⟨s, .nil seen s, hs⟩
  | cons m rest ih =>
      rw [List.pairwise_cons] at hdistinct
      rw [List.forall_mem_cons] at hmembers hseen
      obtain ⟨t, henters, ht⟩ := hmembers.1 seen s hs
      obtain ⟨u, htakes, hu⟩ := ih hmembers.2 hdistinct.2 ht fun m' hm' hkey => by
        rcases List.mem_cons.1 hkey with heq | hkey
        · exact hdistinct.1 m' hm' heq
        · exact hseen.2 m' hm' hkey
      refine ⟨u, .cons ?_ henters htakes, ?_⟩
      · by_cases hkey : m.1 ∈ seen
        · exact .inr (.inl (hseen.1 hkey))
        · exact .inr (.inr hkey)
      · rw [List.map_cons, List.reverse_cons, List.append_assoc]
        exact hu

/-- If a record is determined by the keys that were there, members may come in any order. -/
theorem takes_of_states {state : List String → σ} {members : List (String × Json)}
    (hmembers : ∀ m ∈ members, ∀ seen,
      Enters r m.1 (bytes m.2) (state seen) (state (m.1 :: seen)))
    (hdistinct : (members.map (·.1)).Nodup) :
    Takes r [] (state []) (compactMembers members) (state (members.map (·.1)).reverse) := by
  have hpairs : (compactMembers members).Pairwise fun m m' => m'.1 = m.1 → r.member? m'.1 = none := by
    rw [List.Nodup, ← keys_compactMembers, List.pairwise_map] at hdistinct
    exact hdistinct.imp fun hne heq => absurd heq.symm hne
  have hknown : ∀ m ∈ compactMembers members, ∀ seen s, s = state seen →
      ∃ t, Enters r m.1 m.2.value.text s t ∧ t = state (m.1 :: seen) := by
    intro m hm seen s hs
    obtain ⟨m', hm', rfl⟩ := List.mem_map.1 hm
    exact ⟨_, hs ▸ hmembers m' hm' seen, rfl⟩
  have hseen : ∀ m ∈ compactMembers members, m.1 ∈ [] → r.member? m.1 = none := by
    simp
  obtain ⟨t, htakes, rfl⟩ := exists_takes hknown hpairs rfl hseen
  rwa [keys_compactMembers, List.append_nil] at htakes

/-- A key that no member has is unknown. -/
theorem member?_eq_none {key : String} (h : key ∉ r.members.map (·.key)) : r.member? key = none := by
  unfold member?
  rw [List.find?_eq_none]
  intro m hm hkey
  rw [beq_iff_eq] at hkey
  exact h (hkey ▸ List.mem_map_of_mem hm)

/-- A record is read from members in any order. -/
theorem reads_of_states {state : List String → σ} {members : List (String × Json)}
    (hmembers : ∀ m ∈ members, ∀ seen,
      Enters r m.1 (bytes m.2) (state seen) (state (m.1 :: seen)))
    (hdistinct : (members.map (·.1)).Nodup) (hinitial : state [] = r.initial)
    (hrequired : ∀ m ∈ r.members, m.required = true → m.key ∈ members.map (·.1)) :
    Reads r.read (bytes (.object members)) (state (members.map (·.1)).reverse) :=
  reads_object_of_takes (hinitial ▸ takes_of_states hmembers hdistinct) hrequired

/-- A description that keeps nothing is met by members in any order. -/
theorem reads_unit {r : Record Unit} {members : List (String × Json)}
    (hmembers : ∀ m ∈ members, Enters r m.1 (bytes m.2) () ())
    (hdistinct : (members.map (·.1)).Nodup) (hrequired : r.members.all fun m => !m.required) :
    Reads r.read (bytes (.object members)) () := by
  refine @reads_of_states Unit r (fun _ => ()) members (fun m hm _ => hmembers m hm) hdistinct rfl ?_
  intro m hm hmust
  have hoptional := List.all_eq_true.1 hrequired m hm
  rw [hmust] at hoptional
  contradiction

/-- A description that has no members that have to be there reads back what is written of a record. -/
theorem readsBack_of_takes {members : σ → List (String × Option Json)}
    (htakes : ∀ t, Takes r [] r.initial (spelled (members t)) t)
    (hrequired : r.members.all fun m => !m.required) :
    ReadsBack r.read fun t => ofMembers (members t) := by
  intro t
  refine ⟨reads_object_of_takes (htakes t) fun m hm hmust => ?_, notNull_object _⟩
  have hoptional := List.all_eq_true.1 hrequired m hm
  rw [hmust] at hoptional
  contradiction

/-- A description reads back what is written of a record if all of its members are written. -/
theorem readsBack_of_complete {members : σ → List (String × Option Json)}
    (htakes : ∀ t, Takes r [] r.initial (spelled (members t)) t)
    (hcomplete : ∀ t, (present (members t)).map (·.1) = r.members.map (·.key)) :
    ReadsBack r.read fun t => ofMembers (members t) := by
  intro t
  refine ⟨reads_object_of_takes (htakes t) fun m hm _ => ?_, notNull_object _⟩
  have hmem : m.key ∈ r.members.map (·.key) := List.mem_map_of_mem hm
  rwa [← hcomplete t] at hmem

end Record

end Stevedore.Json
