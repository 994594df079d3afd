import Stevedore.Proofs.Json.Members
/-!
# How the values of a type are written

One value may be written in many ways: with blanks between the parts, with any escapes in its literals,
with the members of an object in any order and beside members that mean nothing, or with the fields of a
record in a list. A form says which texts stand for which value, and the form of a record is put together
from those of its fields. It also says which texts are not to be read because a member that the record
has is there twice, however deep in the text.

Main definitions:

- `Json.Form`: how the values of a type are written.
- `Json.RecordField`: a field of a record, with the form of its values.
- `Json.Form.list` and `Json.Form.record`: the forms of lists and records.
- `Json.Written`: a writer writes values in a form.

Main result:

- Theorem `Json.written_record`: what is written of a record, without the fields that have their default,
  is in the form of the record.
-/

namespace Stevedore.Json

/-- How the values of a type are written. -/
structure Form (α : Type) where
  /-- The text stands for the value. -/
  Spells : α → List UInt8 → Prop
  /-- In the text there is a record of which a member is there twice. -/
  Repeats : List UInt8 → Prop

namespace Form

/-- Strings, with any escapes. -/
def string : Form String where
  Spells s t := ∃ body, Writes s.toList body ∧ t = 0x22 :: (body ++ [0x22])
  Repeats _ := False

/-- Values that are written in one way only, such as integers. -/
def exactly {α : Type} (write : α → Json) : Form α where
  Spells a t := t = bytes (write a)
  Repeats _ := False

/-- Lists, with blanks around the items. -/
def list {α : Type} (form : Form α) : Form (List α) where
  Spells xs t := ∃ gap items, t = listText gap items ∧
    List.Forall₂ (fun x (i : ItemText) => form.Spells x i.text) xs items
  Repeats t := ∃ gap items, t = listText gap items ∧ (∀ i ∈ items, ValueText i.text) ∧
    ∃ i ∈ items, form.Repeats i.text

end Form

/-! ## Records -/

/-- A field of records of type `σ`. -/
structure RecordField (σ : Type) where
  key : String
  {Value : Type}
  get : σ → Value
  form : Form Value

section Records

variable {σ : Type}

/-- The keys of fields. -/
def keys (fields : List (RecordField σ)) : List String := fields.map (·.key)

/-- The member says what the field of its key is, or no field has its key. -/
inductive Says (fields : List (RecordField σ)) (s : σ) : String × MemberText → Prop
  | field {f : RecordField σ} {m : MemberText} (hf : f ∈ fields)
      (h : f.form.Spells (f.get s) m.value.text) : Says fields s (f.key, m)
  | other {key : String} {m : MemberText} (hkey : key ∉ keys fields)
      (h : ValueText m.value.text) : Says fields s (key, m)

/-- The text stands for the record. As an object it has members in any order, of which only those that
say nothing may be there twice; as a list it has the values of the first fields. The fields that are not
there have the value that they have in the initial record. -/
inductive RecordSpells (initial : σ) (fields : List (RecordField σ)) (s : σ) : List UInt8 → Prop
  | object (gap : Gap) {members : List (String × MemberText)}
      (hkeys : ∀ m ∈ members, Writes m.1.toList m.2.key)
      (hmeaning : ∀ m ∈ members, Says fields s m)
      (honce : members.Pairwise fun m m' => m'.1 = m.1 → m'.1 ∉ keys fields)
      (habsent : ∀ f ∈ fields, f.key ∉ members.map (·.1) → f.get s = f.get initial) :
      RecordSpells initial fields s (objectText gap (members.map (·.2)))
  | list (gap : Gap) {items : List ItemText} {present absent : List (RecordField σ)}
      (hfields : fields = present ++ absent)
      (hpresent : List.Forall₂ (fun f (i : ItemText) => f.form.Spells (f.get s) i.text) present items)
      (habsent : ∀ f ∈ absent, f.get s = f.get initial) :
      RecordSpells initial fields s (listText gap items)

/-- In the text, a member of the record or of a record inside it is there twice. -/
inductive RecordRepeats (fields : List (RecordField σ)) : List UInt8 → Prop
  | member (gap : Gap) {members : List MemberText} (hmembers : MembersText members) {key : String}
      (hkey : key ∈ keys fields) {m m' : MemberText} (htwice : [m, m'].Sublist members)
      (hm : Writes key.toList m.key) (hm' : Writes key.toList m'.key) :
      RecordRepeats fields (objectText gap members)
  | value (gap : Gap) {members : List MemberText} (hmembers : MembersText members) {f : RecordField σ}
      (hf : f ∈ fields) {m : MemberText} (hm : m ∈ members) (hkey : Writes f.key.toList m.key)
      (h : f.form.Repeats m.value.text) : RecordRepeats fields (objectText gap members)
  | item (gap : Gap) {items : List ItemText} (hitems : ∀ i ∈ items, ValueText i.text) {f : RecordField σ}
      {i : ItemText} (hplace : (f, i) ∈ fields.zip items) (h : f.form.Repeats i.text) :
      RecordRepeats fields (listText gap items)

/-- The form of records with these fields. -/
def Form.record (initial : σ) (fields : List (RecordField σ)) : Form σ where
  Spells := RecordSpells initial fields
  Repeats := RecordRepeats fields

end Records

/-! ## What is written -/

/-- What is written of a value stands for it. -/
def Written {α : Type} (form : Form α) (write : α → Json) : Prop :=
  ∀ a, form.Spells a (bytes (write a))

/-- A string is written in the one form it has. -/
theorem written_string : Written .string .string := fun s =>
  ⟨_, writes_literalBytes s, bytes_string s⟩

/-- A value in its one form is written in it. -/
theorem written_exactly {α : Type} (write : α → Json) : Written (.exactly write) write := fun _ => rfl

/-- If each item is written in its form, the list is. -/
theorem Written.list {α : Type} {form : Form α} {write : α → Json} (h : Written form write) :
    Written form.list (Json.list write) := by
  intro xs
  refine ⟨{}, _, bytes_array _, ?_⟩
  rw [List.map_map, List.forall₂_map_right_iff, List.forall₂_same]
  exact fun x _ => h x

section Entries

variable {σ : Type} {initial s : σ} {f : RecordField σ}

/-- What is written of a record for a field: its value, or nothing if that is the one that the field has
in the initial record. -/
structure RecordField.Entry (initial s : σ) (f : RecordField σ) (e : String × Option Json) : Prop where
  key : e.1 = f.key
  present : ∀ j ∈ e.2, f.form.Spells (f.get s) (bytes j)
  absent : e.2 = none → f.get s = f.get initial

/-- A member that is always written is written for its field. -/
theorem RecordField.entry_always {write : f.Value → Json} (h : Written f.form write) :
    f.Entry initial s (always f.key (write (f.get s))) where
  key := rfl
  present := by
    rintro j ⟨⟩
    exact h (f.get s)
  absent := nofun

/-- A member that is left out is written for its field if the field then has its initial value. -/
theorem RecordField.entry_omitIf {write : f.Value → Json} {silent : Bool} (h : Written f.form write)
    (hsilent : silent = true → f.get s = f.get initial) :
    f.Entry initial s (omitIf f.key silent (write (f.get s))) := by
  cases silent with
  | true => exact ⟨rfl, nofun, fun _ => hsilent rfl⟩
  | false => exact entry_always h

/-- A text that is left out where it is empty is written for its field. -/
theorem RecordField.entry_omitEmpty {key : String} {get : σ → String} (hinitial : get initial = "") :
    Entry initial s ⟨key, get, .string⟩ (omitEmpty key (get s)) :=
  entry_omitIf written_string fun h => (String.isEmpty_iff.1 h).trans hinitial.symm

/-- A list that is left out where it is empty is written for its field. -/
theorem RecordField.entry_omitNil {α : Type} {key : String} {get : σ → List α} {form : Form α}
    {write : α → Json} (h : Written form write) (hinitial : get initial = []) :
    Entry initial s ⟨key, get, form.list⟩ (omitNil key write (get s)) := by
  have hlist : Entry initial s ⟨key, get, form.list⟩
      (omitIf key (get s).isEmpty (Json.list write (get s))) :=
    entry_omitIf h.list fun hnil => (List.isEmpty_iff.1 hnil).trans hinitial.symm
  exact hlist

/-- The members that are written are those that are there. -/
theorem mem_present_iff {entries : List (String × Option Json)} {key : String} {j : Json} :
    (key, j) ∈ present entries ↔ (key, some j) ∈ entries := by
  unfold present
  rw [List.mem_filterMap]
  constructor
  · rintro ⟨⟨key', value⟩, hentry, heq⟩
    obtain ⟨j', rfl, hpair⟩ := Option.map_eq_some_iff.1 heq
    obtain ⟨rfl, rfl⟩ := Prod.mk.inj hpair
    exact hentry
  · exact fun hentry => ⟨_, hentry, rfl⟩

/-- An object has no member of a key if all entries of the key are left out. -/
theorem member?_ofMembers_eq_none_iff {entries : List (String × Option Json)} {key : String} :
    (ofMembers entries).member? key = none ↔ ∀ e ∈ entries, e.1 = key → e.2 = none := by
  rw [ofMembers, member?, Option.map_eq_none_iff, List.find?_eq_none]
  constructor
  · rintro h ⟨key', value⟩ he rfl
    refine Option.eq_none_iff_forall_ne_some.2 fun j hj => ?_
    obtain rfl : value = some j := hj
    exact h (key', j) (List.mem_reverse.2 (mem_present_iff.2 he)) (beq_self_eq_true key')
  · rintro h ⟨key', j⟩ hm hkey
    have hentry := mem_present_iff.1 (List.mem_reverse.1 hm)
    exact nomatch h _ hentry (beq_iff_eq.1 hkey)

/-- Members that are not left out have the keys of their entries. -/
theorem keys_present_sublist (entries : List (String × Option Json)) :
    ((present entries).map (·.1)).Sublist (entries.map (·.1)) := by
  induction entries with
  | nil => exact .slnil
  | cons e rest ih =>
      obtain ⟨key, _ | j⟩ := e
      · exact ih.cons key
      · exact ih.cons_cons key

/-- Whatever stands on one side of matched lists has a match on the other. -/
theorem exists_mem_of_forall₂ {R : α → β → Prop} {xs : List α} {ys : List β}
    (h : List.Forall₂ R xs ys) {x : α} (hx : x ∈ xs) : ∃ y ∈ ys, R x y := by
  induction h with
  | nil => contradiction
  | @cons a b xs ys hab _ ih =>
      rcases List.mem_cons.1 hx with rfl | hx
      · exact ⟨b, List.mem_cons_self, hab⟩
      · obtain ⟨y, hy, hxy⟩ := ih hx
        exact ⟨y, List.mem_cons_of_mem _ hy, hxy⟩

/-- The entries stand under the keys of the fields. -/
theorem keys_of_entries {fields : List (RecordField σ)} {entries : List (String × Option Json)}
    (h : List.Forall₂ (fun f e => f.Entry initial s e) fields entries) :
    entries.map (·.1) = keys fields := by
  induction h with
  | nil => rfl
  | cons he _ ih => exact congrArg₂ List.cons he.key ih

/-- What is written of a record is in the form of the record. -/
theorem written_record {fields : List (RecordField σ)} {entries : σ → List (String × Option Json)}
    (hdistinct : (keys fields).Nodup)
    (h : ∀ s, List.Forall₂ (fun f e => f.Entry initial s e) fields (entries s)) :
    Written (.record initial fields) fun s => ofMembers (entries s) := by
  intro s
  have hnodup : ((compactMembers (present (entries s))).map (·.1)).Nodup := by
    rw [keys_compactMembers]
    exact (keys_of_entries (h s) ▸ hdistinct).sublist (keys_present_sublist (entries s))
  change RecordSpells initial fields s (bytes (.object (present (entries s))))
  rw [bytes_object]
  refine .object {} (fun m hm => ?_) (fun m hm => ?_) ?_ fun f hf hnone => ?_
  · obtain ⟨m, -, rfl⟩ := List.mem_map.1 hm
    exact writes_literalBytes m.1
  · obtain ⟨⟨key, j⟩, hj, rfl⟩ := List.mem_map.1 hm
    obtain ⟨f, hf, hentry⟩ := exists_mem_of_forall₂ (h s).flip (mem_present_iff.1 hj)
    obtain rfl : key = f.key := hentry.key
    exact .field hf (hentry.present j rfl)
  · rw [List.Nodup, List.pairwise_map] at hnodup
    exact hnodup.imp fun hne heq => absurd heq.symm hne
  · obtain ⟨⟨key, value⟩, he, hentry⟩ := exists_mem_of_forall₂ (h s) hf
    obtain rfl : key = f.key := hentry.key
    refine hentry.absent (Option.eq_none_iff_forall_ne_some.2 fun j hj => hnone ?_)
    obtain rfl : value = some j := hj
    rw [keys_compactMembers]
    exact List.mem_map_of_mem (mem_present_iff.2 he)

end Entries

end Stevedore.Json
