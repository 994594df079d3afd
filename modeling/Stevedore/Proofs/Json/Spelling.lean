import Mathlib.Data.List.Nodup
import Stevedore.Proofs.Json.Extent
import Stevedore.Proofs.Json.Form
/-!
# Every spelling is read

A reader that follows a form takes every text of a value for that value. For records this is shown along
the members of an object, or along the items of a list: what was read so far determines the fields whose
turn has come, and the others are as in the initial record.

Main definitions:

- `Json.Follows`: what a reader makes of the texts that a form speaks of.
- `Json.Record.Describes`: a description has the fields of a form.
- `Json.Reached`: how much of a record is there after some of its members were read.

Main results:

- Theorem `Json.accepts_list`: lists, if their items are taken for what they stand for.
- Theorem `Json.Record.Describes.accepts`: records.
-/

namespace Stevedore.Json

/-! ## Readers that follow a form -/

/-- Somewhere the reader takes the text for something. -/
def Admits {α : Type} (read : Reader α) (t : List UInt8) : Prop :=
  ∃ (gap : Gap) (rest : List UInt8) (p : Position) (a : α) (after : Cursor),
    Ends rest ∧ read ⟨gap.bytes ++ (t ++ rest), p⟩ = .ok (a, after)

/-- The reader takes the texts of a value for the value, and no text in which a member is repeated. -/
structure Follows {α : Type} (read : Reader α) (form : Form α) : Prop where
  accepts : ∀ a t, form.Spells a t → Reads read t a
  stops : Exact read
  refuses : ∀ t, form.Repeats t → ¬ Admits read t

/-! ## Scalars and lists -/

/-- Every spelling of a string is read as the string. -/
theorem accepts_string {s : String} {t : List UInt8} (h : Form.string.Spells s t) :
    Reads readString t s := by
  obtain ⟨body, hbody, rfl⟩ := h
  exact reads_literal "a string" hbody

/-- Every spelling of a list is read as the list, if those of its items are. -/
theorem accepts_list {α : Type} {read : Reader α} {form : Form α}
    (hread : ∀ a t, form.Spells a t → Reads read t a) {xs : List α} {t : List UInt8}
    (h : form.list.Spells xs t) : Reads (readList read) t xs := by
  obtain ⟨gap, items, rfl, hitems⟩ := h
  exact reads_listText gap (hitems.imp fun x i hx => hread x i.text hx)

/-! ## Records -/

section Records

variable {σ : Type}

/-- The member reads the field, which may be left out, and does not touch the others. -/
inductive RecordField.ReadBy (fields : List (RecordField σ)) (f : RecordField σ) : Member σ → Prop
  | optional {read : Reader f.Value} {set : f.Value → σ → σ} (hread : Follows read f.form)
      (hself : ∀ a s, f.get (set a s) = a := by intros; rfl)
      (hothers : ∀ g ∈ fields, g.key ≠ f.key → ∀ a s, g.get (set a s) = g.get s := by simp) :
      ReadBy fields f (.optional f.key read set)

/-- A field is read by a member with its key. -/
theorem RecordField.ReadBy.key {fields : List (RecordField σ)} {f : RecordField σ} {m : Member σ}
    (h : f.ReadBy fields m) : m.key = f.key := by
  cases h
  rfl

/-- No member that reads a field has to be there. -/
theorem RecordField.ReadBy.required {fields : List (RecordField σ)} {f : RecordField σ} {m : Member σ}
    (h : f.ReadBy fields m) : m.required = false := by
  cases h
  rfl

/-- The description has these fields, and they make up a record. An object of members or a list of
values is read, in which no member of the description may be repeated and others are passed over. -/
structure Record.Describes (r : Record σ) (fields : List (RecordField σ)) : Prop where
  members : List.Forall₂ (RecordField.ReadBy fields) fields r.members
  determined : ∀ s t, (∀ f ∈ fields, f.get s = f.get t) → s = t := by
    rintro ⟨⟩ ⟨⟩ h
    simpa using h
  distinct : (keys fields).Nodup := by decide
  listForm : r.listForm = .values := by rfl
  lastCounts : r.lastCounts = false := by rfl
  passOver : r.passOver = skipValue := by rfl

/-- Of the record `s`, the fields with the keys `seen` are there; the others are as in the initial
record. -/
def Reached (initial : σ) (fields : List (RecordField σ)) (s : σ) (seen : List String) (u : σ) : Prop :=
  ∀ f ∈ fields, f.get u = if f.key ∈ seen then f.get s else f.get initial

namespace Record.Describes

variable {r : Record σ} {fields : List (RecordField σ)} {s u : σ} {seen : List String}

/-- Fields with the same key are the same. -/
theorem field_eq (h : r.Describes fields) {f g : RecordField σ} (hf : f ∈ fields) (hg : g ∈ fields)
    (hkey : f.key = g.key) : f = g :=
  List.inj_on_of_nodup_map h.distinct hf hg hkey

/-- A field is read by the member of its key. -/
theorem member?_field (h : r.Describes fields) {f : RecordField σ} (hf : f ∈ fields) :
    ∃ m, r.member? f.key = some m ∧ f.ReadBy fields m := by
  obtain ⟨m, hm, hread⟩ := exists_mem_of_forall₂ h.members hf
  have hsome : (r.member? f.key).isSome := by
    unfold member?
    rw [List.find?_isSome]
    exact ⟨m, hm, beq_iff_eq.2 hread.key⟩
  obtain ⟨m', hm'⟩ := Option.isSome_iff_exists.1 hsome
  obtain ⟨g, hg, hread'⟩ := exists_mem_of_forall₂ h.members.flip (List.mem_of_find?_eq_some hm')
  have hfound := List.find?_some hm'
  have hkey : g.key = f.key := hread'.key.symm.trans (beq_iff_eq.1 hfound)
  exact ⟨m', hm', h.field_eq hg hf hkey ▸ hread'⟩

/-- A key that no field has belongs to no member. -/
theorem member?_other (h : r.Describes fields) {key : String} (hkey : key ∉ keys fields) :
    r.member? key = none := by
  refine member?_eq_none fun hmem => hkey ?_
  obtain ⟨m, hm, rfl⟩ := List.mem_map.1 hmem
  obtain ⟨f, hf, hread⟩ := exists_mem_of_forall₂ h.members.flip hm
  exact hread.key ▸ List.mem_map_of_mem hf

/-- After a field was read it is there too. -/
theorem reached_set (h : r.Describes fields) {f : RecordField σ} (hf : f ∈ fields)
    {set : f.Value → σ → σ} (hself : ∀ a u, f.get (set a u) = a)
    (hothers : ∀ g ∈ fields, g.key ≠ f.key → ∀ a u, g.get (set a u) = g.get u)
    (hu : Reached r.initial fields s seen u) :
    Reached r.initial fields s (f.key :: seen) (set (f.get s) u) := by
  intro g hg
  by_cases hkey : g.key = f.key
  · obtain rfl := h.field_eq hg hf hkey
    rw [hself, if_pos List.mem_cons_self]
  · rw [hothers g hg hkey, hu g hg]
    simp [hkey]

/-- Where all fields are there that do not have their initial value, the record is there. -/
theorem eq_of_reached (h : r.Describes fields) (hu : Reached r.initial fields s seen u)
    (habsent : ∀ f ∈ fields, f.key ∉ seen → f.get s = f.get r.initial) : u = s := by
  refine h.determined u s fun f hf => ?_
  rw [hu f hf]
  split
  · rfl
  · next hkey => exact (habsent f hf hkey).symm

/-- A member of an object is read. -/
theorem enters (h : r.Describes fields) {m : String × MemberText} (hm : Says fields s m)
    (hu : Reached r.initial fields s seen u) :
    ∃ t, Enters r m.1 m.2.value.text u t ∧ Reached r.initial fields s (m.1 :: seen) t := by
  cases hm with
  | @field f m hf hspells =>
      obtain ⟨member, hmember, hread⟩ := h.member?_field hf
      cases hread with
      | @optional read set hread hself hothers =>
          have hreads := (hread.accepts _ _ hspells).map (set · u)
          exact ⟨_, .known hmember hreads, h.reached_set hf hself hothers hu⟩
  | @other key m hkey htext =>
      refine ⟨u, .unknown (h.member?_other hkey) (h.passOver ▸ htext.reads), fun f hf => ?_⟩
      have hne : f.key ≠ key := fun heq => hkey (heq ▸ List.mem_map_of_mem hf)
      rw [hu f hf]
      simp [hne]

/-! ### Lists of values -/

/-- At the end of the list the members that are left are passed by. -/
theorem readValues_end {members : List (Member σ)} (hmembers : ∀ m ∈ members, m.required = false)
    (index : Nat) (first : Bool) (u : σ) (gap : Gap) (rest : List UInt8) (p : Position) :
    ∃ (gap' : Gap) (q : Position),
      r.readValues index first u members ⟨gap.bytes ++ 0x5D :: rest, p⟩ =
        .ok (u, ⟨gap'.bytes ++ 0x5D :: rest, q⟩) := by
  induction members generalizing index gap p with
  | nil => exact ⟨gap, p, rfl⟩
  | cons m members ih =>
      rw [List.forall_mem_cons] at hmembers
      obtain ⟨q, hmore⟩ := moreItems_end first gap rest p
      obtain ⟨gap', q', hrest⟩ := ih hmembers.2 (index + 1) {} q
      refine ⟨gap', q', ?_⟩
      rw [readValues, hmore]
      simp only [hmembers.1]
      exact hrest

/-- The values of the first fields are read. -/
theorem readValues_items (h : r.Describes fields) {present absent : List (RecordField σ)}
    (hfields : ∀ f ∈ present, f ∈ fields) {items : List ItemText}
    (hpresent : List.Forall₂ (fun f (i : ItemText) => f.form.Spells (f.get s) i.text) present items)
    {members : List (Member σ)}
    (hmembers : List.Forall₂ (RecordField.ReadBy fields) (present ++ absent) members) (index : Nat)
    (first : Bool) (hu : Reached r.initial fields s seen u) (gap : Gap) (rest : List UInt8)
    (p : Position) :
    ∃ (t : σ) (gap' : Gap) (q : Position),
      r.readValues index first u members
          ⟨gap.bytes ++ (itemsText first items ++ 0x5D :: rest), p⟩ =
        .ok (t, ⟨gap'.bytes ++ 0x5D :: rest, q⟩) ∧
      Reached r.initial fields s ((keys present).reverse ++ seen) t := by
  induction hpresent generalizing members index first seen u gap p with
  | nil =>
      have hrequired : ∀ m ∈ members, m.required = false := fun m hm =>
        (exists_mem_of_forall₂ hmembers.flip hm).choose_spec.2.required
      obtain ⟨gap', q, hend⟩ := readValues_end (r := r) hrequired index first u gap rest p
      exact ⟨u, gap', q, hend, hu⟩
  | @cons f i present items hspells _ ih =>
      rw [List.forall_mem_cons] at hfields
      cases hmembers with
      | @cons _ m _ members hread hrest =>
      cases hread with
      | @optional read set hread hself hothers =>
      have hreads := (hread.accepts _ _ hspells).map (set · u)
      obtain ⟨q, hmore⟩ := moreItems_item first gap i.before hreads.opens
        (i.after.bytes ++ (itemsText false items ++ 0x5D :: rest)) p
      obtain ⟨q', hvalue⟩ := hreads.run_here ((ends_itemsText items rest).gap i.after) q
      obtain ⟨t, gap', q'', hmoreValues, ht⟩ := ih hfields.2 hrest (index + 1) false
        (h.reached_set hfields.1 hself hothers hu) i.after q'
      refine ⟨t, gap', q'', ?_, ?_⟩
      · rw [itemsText_cons, readValues]
        simp only [hmore, Member.optional, hvalue]
        exact hmoreValues
      · simpa [keys] using ht

/-- A record is read from any of its texts. -/
theorem accepts (h : r.Describes fields) {t : List UInt8}
    (hspells : (Form.record r.initial fields).Spells s t) : Reads r.read t s := by
  have hinitial : Reached r.initial fields s [] r.initial := fun f _ => by simp
  cases hspells with
  | @object gap members hkeys hmeaning honce habsent =>
      obtain ⟨u, htakes, hu⟩ := exists_takes (fun m hm seen u hu => h.enters (hmeaning m hm) hu)
        (honce.imp fun hne heq => h.member?_other (hne heq)) hinitial (by simp)
      rw [List.append_nil] at hu
      obtain rfl : u = s := h.eq_of_reached hu fun f hf hkey => habsent f hf (by simpa using hkey)
      refine reads_of_takes gap htakes hkeys fun m hm hmust => ?_
      obtain ⟨f, -, hread⟩ := exists_mem_of_forall₂ h.members.flip hm
      rw [hread.required] at hmust
      contradiction
  | @list gap items present absent hfields hpresent habsent =>
      refine reads_atValue (opens_listText gap items) fun rest p _ => ?_
      have hmembers : List.Forall₂ (RecordField.ReadBy fields) (present ++ absent) r.members := by
        rw [← hfields]
        exact h.members
      obtain ⟨u, gap', q, hrun, hu⟩ := h.readValues_items
        (fun f hf => hfields ▸ List.mem_append_left absent hf) hpresent hmembers 0 true hinitial gap
        rest (p.after 0x5B)
      rw [List.append_nil] at hu
      obtain rfl : s = u := by
        refine (h.eq_of_reached hu fun f hf hkey => habsent f ?_).symm
        rw [hfields, List.mem_append] at hf
        refine hf.resolve_left fun hf => hkey ?_
        exact List.mem_reverse.2 (List.mem_map_of_mem hf)
      obtain ⟨q', hclose⟩ := closing_list s gap' rest q
      refine ⟨q', ?_⟩
      rw [listText_append]
      change r.readListForm _ = _
      unfold readListForm
      rw [h.listForm, Cursor.next_cons]
      simp only [hrun, hclose]

end Record.Describes

end Records

end Stevedore.Json
