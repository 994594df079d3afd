import Mathlib.Data.List.Forall2
import Stevedore.Json.Record
import Stevedore.Proofs.Json.Scalars
/-!
# Lists, objects and records read back

A list is read back if its items are, and an object with free keys if its values are, with blanks
between all the parts. A record is read from the members of an object one after the other; what each
does to the record is said by `Takes`.

Main definitions:

- `Record.Takes`: what the members of an object make of a record.

Main results:

- Theorems `reads_listText` and `reads_entries`: lists, and objects with free keys.
- Theorem `Record.reads_of_takes`: a record from the members of an object.
-/

namespace Stevedore.Json

/-! ## Separators and brackets -/

/-- The colon after a key is passed over with the blanks before it. -/
theorem skipColon_gap (gap : Gap) (rest : List UInt8) (p : Position) :
    ∃ q, skipColon ⟨gap.bytes ++ 0x3A :: rest, p⟩ = .ok ((), ⟨rest, q⟩) := by
  obtain ⟨q, hblanks⟩ := Cursor.skipBlanks_gap gap (b := 0x3A) (by decide) rest p
  refine ⟨q.after 0x3A, ?_⟩
  unfold skipColon
  rw [hblanks]
  rfl

/-- A list is closed with the blanks before its bracket. -/
theorem closing_list (a : α) (gap : Gap) (rest : List UInt8) (p : Position) :
    ∃ q, closing .list (.ok (a, ⟨gap.bytes ++ 0x5D :: rest, p⟩)) = .ok (a, ⟨rest, q⟩) := by
  obtain ⟨q, hblanks⟩ := Cursor.skipBlanks_gap gap (b := 0x5D) (by decide) rest p
  refine ⟨q.after 0x5D, ?_⟩
  simp only [closing, close, hblanks]
  rfl

/-- The blanks before an item are passed over, and the comma, unless the item is the first one. -/
theorem skipBlanks_separator (gap before : Gap) {t : List UInt8} (h : Opens t) (rest : List UInt8)
    (p : Position) :
    (∃ q, (Cursor.mk (gap.bytes ++ (separator true ++ (before.bytes ++ (t ++ rest)))) p).skipBlanks =
      ⟨t ++ rest, q⟩) ∧
    ∃ q, (Cursor.mk (gap.bytes ++ (separator false ++ (before.bytes ++ (t ++ rest)))) p).skipBlanks =
      ⟨0x2C :: (before.bytes ++ (t ++ rest)), q⟩ := by
  constructor
  · obtain ⟨q, hskip, -⟩ := h.skipBlanks_gap (gap.append before) rest p
    refine ⟨q, ?_⟩
    rw [← hskip]
    simp [Gap.append, separator]
  · exact Cursor.skipBlanks_gap gap (by decide) _ p

/-- A text that can open a value does not start with a closing bracket. -/
theorem Opens.head?_ne {t : List UInt8} (h : Opens t) (rest : List UInt8) (p : Position) :
    (Cursor.mk (t ++ rest) p).head? ≠ some ']' := by
  obtain ⟨b, more, rfl, -, hcloser⟩ := h
  rw [List.cons_append, Cursor.head?_cons, ne_eq, Option.some.injEq, ofNat_toNat_eq_iff]
  exact fun hb => hcloser (UInt8.toNat_inj.1 hb)

/-- Where an item follows, the list is not over. -/
theorem head?_separator_ne (first : Bool) (gap before : Gap) {t : List UInt8} (h : Opens t)
    (rest : List UInt8) (p : Position) :
    (Cursor.mk (gap.bytes ++ (separator first ++ (before.bytes ++ (t ++ rest)))) p).skipBlanks.head? ≠
      some ']' := by
  obtain ⟨⟨q, hfirst⟩, q', hlater⟩ := skipBlanks_separator gap before h rest p
  cases first with
  | true =>
      rw [hfirst]
      exact h.head?_ne rest q
  | false =>
      rw [hlater, Cursor.head?_cons]
      decide

/-- At the closing bracket there are no more items. -/
theorem moreItems_end (first : Bool) (gap : Gap) (rest : List UInt8) (p : Position) :
    ∃ q, moreItems first ⟨gap.bytes ++ 0x5D :: rest, p⟩ = .ok (false, ⟨0x5D :: rest, q⟩) := by
  obtain ⟨q, hblanks⟩ := Cursor.skipBlanks_gap gap (b := 0x5D) (by decide) rest p
  refine ⟨q, ?_⟩
  unfold moreItems
  rw [hblanks]
  rfl

/-- After a separator there is one more item. -/
theorem moreItems_item (first : Bool) (gap before : Gap) {t : List UInt8} (h : Opens t)
    (rest : List UInt8) (p : Position) :
    ∃ q, moreItems first ⟨gap.bytes ++ (separator first ++ (before.bytes ++ (t ++ rest))), p⟩ =
      .ok (true, ⟨t ++ rest, q⟩) := by
  have hroom : (t ++ rest).isEmpty = false := (h.skipBlanks_gap {} rest p).choose_spec.2
  obtain ⟨⟨q, hfirst⟩, q', hlater⟩ := skipBlanks_separator gap before h rest p
  cases first with
  | true =>
      refine ⟨q, ?_⟩
      unfold moreItems
      simp only [hfirst, hroom, if_neg (h.head?_ne rest q)]
      rfl
  | false =>
      obtain ⟨q'', hskip, -⟩ := h.skipBlanks_gap before rest (q'.after 0x2C)
      refine ⟨q'', ?_⟩
      unfold moreItems
      simp [hlater, hskip, hroom, h.head?_ne rest q'']

/-- At the closing brace there are no more members. -/
theorem moreMembers_end (first : Bool) (gap : Gap) (rest : List UInt8) (p : Position) :
    ∃ q, moreMembers first ⟨gap.bytes ++ 0x7D :: rest, p⟩ = .ok (false, ⟨0x7D :: rest, q⟩) := by
  obtain ⟨q, hblanks⟩ := Cursor.skipBlanks_gap gap (b := 0x7D) (by decide) rest p
  refine ⟨q, ?_⟩
  unfold moreMembers
  rw [hblanks]
  rfl

/-- A member is found at the opening quote of its key. -/
theorem moreMembers_member (first : Bool) (gap before : Gap) (rest : List UInt8) (p : Position) :
    ∃ q, moreMembers first ⟨gap.bytes ++ (separator first ++ (before.bytes ++ 0x22 :: rest)), p⟩ =
      .ok (true, ⟨0x22 :: rest, q⟩) := by
  have hquote : Opens [0x22] := ⟨0x22, [], rfl, by decide, by decide⟩
  obtain ⟨⟨q, hfirst⟩, q', hlater⟩ := skipBlanks_separator gap before hquote rest p
  cases first with
  | true =>
      refine ⟨q, ?_⟩
      unfold moreMembers
      rw [show [0x22] ++ rest = 0x22 :: rest from rfl] at hfirst
      simp only [hfirst]
      rfl
  | false =>
      obtain ⟨q'', hskip, -⟩ := hquote.skipBlanks_gap before rest (q'.after 0x2C)
      refine ⟨q'', ?_⟩
      unfold moreMembers
      rw [show [0x22] ++ rest = 0x22 :: rest from rfl] at hlater hskip
      simp [hlater, hskip]

/-! ## Lists -/

section Lists

variable {read : Reader α}

/-- The text of the item stands for the value. -/
def ReadsItem (read : Reader α) (a : α) (x : ItemText) : Prop := Reads read x.text a

/-- The text of an item, with what comes after it. -/
theorem itemsText_cons (first : Bool) (i : ItemText) (items : List ItemText) (rest : List UInt8) :
    itemsText first (i :: items) ++ 0x5D :: rest = separator first ++ (i.before.bytes ++
      (i.text ++ (i.after.bytes ++ (itemsText false items ++ 0x5D :: rest)))) := by
  simp [itemsText, ItemText.bytes]

/-- An item takes room. -/
theorem before_item {i : ItemText} (h : Opens i.text) (first : Bool) (gap : Gap) (tail : List UInt8)
    (p q : Position) :
    (Cursor.mk (gap.bytes ++ (separator first ++ (i.before.bytes ++ (i.text ++ tail)))) p).Before
      ⟨tail, q⟩ := by
  have hlength := h.length_lt tail
  simp only [Cursor.Before, List.length_append] at hlength ⊢
  omega

/-- The items of a list are read up to its closing bracket. -/
theorem readItems_items {xs : List α} {items : List ItemText}
    (h : List.Forall₂ (ReadsItem read) xs items) (first : Bool) (gap : Gap) (rest : List UInt8)
    (p : Position) :
    ∃ q, readItems read first ⟨gap.bytes ++ (itemsText first items ++ 0x5D :: rest), p⟩ =
      .ok (xs, ⟨0x5D :: rest, q⟩) := by
  induction h generalizing first gap p with
  | nil =>
      obtain ⟨q, hmore⟩ := moreItems_end first gap rest p
      refine ⟨q, ?_⟩
      rw [readItems, itemsText, List.nil_append, hmore]
  | @cons a i xs items ha _ ih =>
      let tail := i.after.bytes ++ (itemsText false items ++ 0x5D :: rest)
      obtain ⟨q, hmore⟩ := moreItems_item first gap i.before ha.opens tail p
      obtain ⟨q', hread⟩ := ha.run_here ((ends_itemsText items rest).gap i.after) q
      obtain ⟨q'', hrest⟩ := ih false i.after q'
      refine ⟨q'', ?_⟩
      rw [itemsText_cons, readItems]
      simp only [tail] at hmore
      simp only [hmore, hread, if_pos (before_item ha.opens first gap _ p q'), hrest]

/-- The text of a list can open a value. -/
theorem opens_listText (gap : Gap) (items : List ItemText) : Opens (listText gap items) :=
  ⟨0x5B, _, rfl, by decide, by decide⟩

theorem head?_listText (gap : Gap) (items : List ItemText) (rest : List UInt8) (p : Position) :
    (Cursor.mk (listText gap items ++ rest) p).head? = some '[' := rfl

theorem listText_append (gap : Gap) (items : List ItemText) (rest : List UInt8) :
    listText gap items ++ rest = 0x5B :: (gap.bytes ++ (itemsText true items ++ 0x5D :: rest)) := by
  simp [listText]

/-- The items are read after the opening bracket. -/
theorem readItems_listText (gap : Gap) {xs : List α} {items : List ItemText}
    (h : List.Forall₂ (ReadsItem read) xs items) (rest : List UInt8) (p : Position) :
    ∃ q, readItems read true (Cursor.mk (listText gap items ++ rest) p).next =
      .ok (xs, ⟨0x5D :: rest, q⟩) := by
  rw [listText_append]
  exact readItems_items h true gap rest _

/-- A list is read if its items are. -/
theorem reads_listText (gap : Gap) {xs : List α} {items : List ItemText}
    (h : List.Forall₂ (ReadsItem read) xs items) :
    Reads (readList read) (listText gap items) xs := by
  refine reads_atValue (opens_listText gap items) fun rest p _ => ?_
  obtain ⟨q, hitems⟩ := readItems_listText gap h rest p
  refine ⟨q.after 0x5D, ?_⟩
  rw [if_pos (head?_listText gap items rest p), hitems]
  rfl

/-- Values that are read back make a list that is. -/
theorem readsItem_compactItem {write : α → Json} {xs : List α}
    (h : ∀ x ∈ xs, Reads read (bytes (write x)) x) :
    List.Forall₂ (ReadsItem read) xs ((xs.map write).map compactItem) := by
  rw [List.map_map, List.forall₂_map_right_iff, List.forall₂_same]
  exact h

theorem notNull_array (items : List Json) : NotNull (bytes (.array items)) := by
  simp [NotNull, bytes_array, listText]

/-- What is written of a list is read back if its items are. -/
theorem reads_list {write : α → Json} {xs : List α}
    (h : ∀ x ∈ xs, Reads read (bytes (write x)) x) :
    Reads (readList read) (bytes (.list write xs)) xs := by
  unfold list
  rw [bytes_array]
  exact reads_listText {} (readsItem_compactItem h)

end Lists

/-! ## Objects -/

theorem notNull_object (members : List (String × Json)) : NotNull (bytes (.object members)) := by
  simp [NotNull, bytes_object, objectText]

/-- The text of an object can open a value. -/
theorem opens_objectText (gap : Gap) (members : List MemberText) : Opens (objectText gap members) :=
  ⟨0x7B, _, rfl, by decide, by decide⟩

theorem head?_objectText (gap : Gap) (members : List MemberText) (rest : List UInt8) (p : Position) :
    (Cursor.mk (objectText gap members ++ rest) p).head? = some '\x7b' := rfl

theorem objectText_append (gap : Gap) (members : List MemberText) (rest : List UInt8) :
    objectText gap members ++ rest =
      0x7B :: (gap.bytes ++ (membersText true members ++ 0x7D :: rest)) := by
  simp [objectText]

/-- A member's key is read; its colon and its value are next. -/
theorem readLiteral_key {m : MemberText} {key : String} (h : Writes key.toList m.key)
    (tail : List UInt8) (p : Position) :
    ∃ q, readLiteral ⟨m.key ++ 0x22 :: (m.between.bytes ++ 0x3A :: tail), p⟩ =
      .ok (key, ⟨m.between.bytes ++ 0x3A :: tail, q⟩) :=
  readLiteral_writes h _ p

/-- The text of a member, with what comes after it. -/
theorem membersText_cons (first : Bool) (m : MemberText) (members : List MemberText)
    (rest : List UInt8) : membersText first (m :: members) ++ 0x7D :: rest =
      separator first ++ (m.before.bytes ++ 0x22 :: (m.key ++ 0x22 :: (m.between.bytes ++
        0x3A :: (m.value.before.bytes ++ (m.value.text ++ (m.value.after.bytes ++
          (membersText false members ++ 0x7D :: rest))))))) := by
  simp [membersText, MemberText.bytes, ItemText.bytes]

/-- A member takes room. -/
theorem before_member (first : Bool) (gap : Gap) (m : MemberText) (tail : List UInt8)
    (p q : Position) :
    (Cursor.mk (gap.bytes ++ (separator first ++ (m.before.bytes ++ 0x22 :: (m.key ++
      0x22 :: (m.between.bytes ++ 0x3A :: (m.value.before.bytes ++ (m.value.text ++ tail))))))) p).Before
        ⟨tail, q⟩ := by
  simp only [Cursor.Before, List.length_append, List.length_cons]
  omega

section Entries

variable {read : Reader α}

/-- The text of the member has the key, and its value stands for the value. -/
def ReadsEntry (read : Reader α) (e : String × α) (m : MemberText) : Prop :=
  Writes e.1.toList m.key ∧ Reads read m.value.text e.2

/-- The members of an object with free keys are read up to its closing brace. -/
theorem readPairs_members {entries : List (String × α)} {members : List MemberText}
    (h : List.Forall₂ (ReadsEntry read) entries members) (first : Bool) (gap : Gap)
    (rest : List UInt8) (p : Position) :
    ∃ q, readPairs read first ⟨gap.bytes ++ (membersText first members ++ 0x7D :: rest), p⟩ =
      .ok (entries, ⟨0x7D :: rest, q⟩) := by
  induction h generalizing first gap p with
  | nil =>
      obtain ⟨q, hmore⟩ := moreMembers_end first gap rest p
      refine ⟨q, ?_⟩
      rw [readPairs, membersText, List.nil_append, hmore]
  | @cons e m entries members hm _ ih =>
      obtain ⟨hkey, hvalue⟩ := hm
      let tail := m.value.after.bytes ++ (membersText false members ++ 0x7D :: rest)
      let value := m.value.before.bytes ++ (m.value.text ++ tail)
      obtain ⟨q, hmore⟩ := moreMembers_member first gap m.before
        (m.key ++ 0x22 :: (m.between.bytes ++ 0x3A :: value)) p
      obtain ⟨q₁, hliteral⟩ := readLiteral_key hkey value (q.after 0x22)
      obtain ⟨q₂, hcolon⟩ := skipColon_gap m.between value q₁
      obtain ⟨q₃, hread⟩ := hvalue.run m.value.before tail q₂
        ((ends_membersText members rest).gap m.value.after)
      obtain ⟨q₄, hrest⟩ := ih false m.value.after q₃
      have hreadKey : readKey ⟨0x22 :: (m.key ++ 0x22 :: (m.between.bytes ++ 0x3A :: value)), q⟩ =
          .ok (e.1, ⟨value, q₂⟩) := by
        unfold readKey
        rw [Cursor.next_cons, hliteral]
        simp only [Reader.map, hcolon]
      refine ⟨q₄, ?_⟩
      rw [membersText_cons, readPairs]
      simp only [value, tail] at hmore hreadKey hread
      simp only [hmore, hreadKey, hread, if_pos (before_member first gap m _ p q₃), hrest]

/-- The members are read after the opening brace. -/
theorem readPairs_objectText (gap : Gap) {entries : List (String × α)} {members : List MemberText}
    (h : List.Forall₂ (ReadsEntry read) entries members) (rest : List UInt8) (p : Position) :
    ∃ q, readPairs read true (Cursor.mk (objectText gap members ++ rest) p).next =
      .ok (entries, ⟨0x7D :: rest, q⟩) := by
  rw [objectText_append]
  exact readPairs_members h true gap rest _

/-- Entries with values that are read back make an object that is. -/
theorem readsEntry_compactMembers {write : α → Json} {xs : List (String × α)}
    (h : ∀ x ∈ xs, Reads read (bytes (write x.2)) x.2) :
    List.Forall₂ (ReadsEntry read) xs
      ((compactMembers (xs.map fun x => (x.1, write x.2))).map (·.2)) := by
  rw [compactMembers, List.map_map, List.map_map, List.forall₂_map_right_iff, List.forall₂_same]
  exact fun x hx => ⟨writes_literalBytes x.1, h x hx⟩

/-- An object with free keys is read back if its values are. -/
theorem reads_entries {write : α → Json} {xs : List (String × α)}
    (h : ∀ x ∈ xs, Reads read (bytes (write x.2)) x.2) :
    Reads (readEntries read) (bytes (.object (xs.map fun x => (x.1, write x.2)))) xs := by
  rw [bytes_object]
  refine reads_atValue (opens_objectText _ _) fun rest p _ => ?_
  obtain ⟨q, hpairs⟩ := readPairs_objectText {} (readsEntry_compactMembers h) rest p
  refine ⟨q.after 0x7D, ?_⟩
  rw [if_pos (head?_objectText _ _ rest p), hpairs]
  rfl

end Entries

/-! ## Variants -/

/-- A variant with a record is read from an object whose one member has its name. -/
theorem reads_recordVariant {variants : List (String × Payload α)} {name : String} {read : Reader α}
    {j : Json} {a : α} (hname : variants.lookup name = some (.record read))
    (hread : Reads read (bytes j) a) : Reads (readVariant variants) (bytes (.object [(name, j)])) a := by
  rw [bytes_object]
  refine reads_atValue (opens_objectText _ _) fun rest p _ => ?_
  have htext : objectText {} ((compactMembers [(name, j)]).map (·.2)) ++ rest =
      0x7B :: 0x22 :: (literalBytes name ++ 0x22 :: 0x3A :: (bytes j ++ 0x7D :: rest)) := by
    simp [objectText, membersText, compactMembers, compactMember, compactItem, MemberText.bytes,
      ItemText.bytes, separator]
  obtain ⟨q, hliteral⟩ := readLiteral_writes (writes_literalBytes name)
    (0x3A :: (bytes j ++ 0x7D :: rest)) ((p.after 0x7B).after 0x22)
  obtain ⟨q', hvalue⟩ := hread.run_here (ends_membersText [] rest) (q.after 0x3A)
  have hkey : atVariantKey (readVariantName variants)
      ⟨0x22 :: (literalBytes name ++ 0x22 :: 0x3A :: (bytes j ++ 0x7D :: rest)), p.after 0x7B⟩ =
        .ok (.record read, ⟨0x3A :: (bytes j ++ 0x7D :: rest), q⟩) := by
    have hquote : ¬ Cursor.IsBlank 0x22 := by decide
    unfold atVariantKey readVariantName readText atValue
    simp only [Cursor.skipBlanks_cons _ _ hquote, Cursor.next_cons, hliteral]
    simp [hname]
  have hcolon : skipColon ⟨0x3A :: (bytes j ++ 0x7D :: rest), q⟩ =
      .ok ((), ⟨bytes j ++ 0x7D :: rest, q.after 0x3A⟩) := rfl
  refine ⟨q'.after 0x7D, ?_⟩
  rw [htext, Cursor.head?_cons, Cursor.next_cons, hkey]
  simp only [hcolon, Payload.readAfterName]
  simp only [membersText, List.nil_append] at hvalue
  rw [hvalue]
  rfl

/-! ## Records -/

namespace Record

variable {σ : Type} {r : Record σ}

/-- A member is read into a record, or passed over if the record has none of that key. -/
inductive Enters (r : Record σ) (key : String) (t : List UInt8) (s : σ) : σ → Prop
  | known {m : Member σ} {u : σ} (hm : r.member? key = some m) (hread : Reads (m.read s) t u) :
      Enters r key t s u
  | unknown (hm : r.member? key = none) (hread : Reads r.passOver t ()) : Enters r key t s s

/-- Reads the value of a member into a record, or passes over it. -/
def readMember (r : Record σ) (key : String) (s : σ) : Reader σ := fun c =>
  match r.member? key with
  | some m => m.read s c
  | none => r.passOver.map (fun _ => s) c

/-- A member that the record knows is read as it says. -/
theorem readMember_known {key : String} {m : Member σ} (hm : r.member? key = some m) (s : σ) :
    r.readMember key s = m.read s := by
  funext c
  unfold readMember
  rw [hm]

/-- What enters a member is read as its value. -/
theorem readMember_unknown {key : String} (hm : r.member? key = none) (s : σ) :
    r.readMember key s = r.passOver.map fun _ => s := by
  funext c
  unfold readMember
  rw [hm]

theorem Enters.reads {key : String} {t : List UInt8} {s u : σ} (h : Enters r key t s u) :
    Reads (r.readMember key s) t u := by
  cases h with
  | known hm hread =>
      rw [readMember_known hm]
      exact hread
  | unknown hm hread =>
      rw [readMember_unknown hm]
      exact hread.map fun _ => s

/-- What the members of an object make of a record, after members with the keys `seen`. A key that the
record has may be repeated only where the last one counts. -/
inductive Takes (r : Record σ) : List String → σ → List (String × MemberText) → σ → Prop
  | nil (seen : List String) (s : σ) : Takes r seen s [] s
  | cons {seen : List String} {key : String} {m : MemberText} {s t u : σ}
      {rest : List (String × MemberText)}
      (hnew : r.lastCounts = true ∨ r.member? key = none ∨ key ∉ seen)
      (hmember : Enters r key m.value.text s t) (hrest : Takes r (key :: seen) t rest u) :
      Takes r seen s ((key, m) :: rest) u

/-- The step from one member to the next. -/
theorem readMembers_of_more {first : Bool} {seen : List String} {s : σ} {c here : Cursor}
    (hmore : moreMembers first c = .ok (true, here)) :
    r.readMembers first seen s c =
      match readLiteral here.next with
      | .error e => .error e
      | .ok (key, colon) =>
        if !r.lastCounts && (r.member? key).isSome && seen.contains key then
          .error (.pending (.repeatedField key) colon)
        else
          match skipColon colon with
          | .error e => .error e
          | .ok ((), value) =>
            match r.readMember key s value with
            | .error e => .error e
            | .ok (t, later) =>
              if c.Before later then r.readMembers false (key :: seen) t later
              else fail .expectedValue later := by
  rw [readMembers, hmore]
  rfl

/-- A key is not refused as a repetition exactly if the last one counts, if it is unknown, or if it
is new. -/
theorem not_repeated {key : String} {seen : List String} :
    (!r.lastCounts && (r.member? key).isSome && seen.contains key) = false ↔
      (r.lastCounts = true ∨ r.member? key = none ∨ key ∉ seen) := by
  cases r.lastCounts <;> cases r.member? key <;> simp

/-- The members of an object are read up to its closing brace. -/
theorem readMembers_members {seen : List String} {s t : σ} {members : List (String × MemberText)}
    (h : Takes r seen s members t) (hkeys : ∀ m ∈ members, Writes m.1.toList m.2.key) (first : Bool)
    (gap : Gap) (rest : List UInt8) (p : Position) :
    ∃ q, r.readMembers first seen s
        ⟨gap.bytes ++ (membersText first (members.map (·.2)) ++ 0x7D :: rest), p⟩ =
      .ok ((t, (members.map (·.1)).reverse ++ seen), ⟨0x7D :: rest, q⟩) := by
  induction h generalizing first gap p with
  | nil seen s =>
      obtain ⟨q, hmore⟩ := moreMembers_end first gap rest p
      refine ⟨q, ?_⟩
      rw [readMembers, List.map_nil, membersText, List.nil_append, hmore]
      rfl
  | @cons seen key m s t u members hnew hmember _ ih =>
      rw [List.forall_mem_cons] at hkeys
      let tail := m.value.after.bytes ++ (membersText false (members.map (·.2)) ++ 0x7D :: rest)
      let value := m.value.before.bytes ++ (m.value.text ++ tail)
      obtain ⟨q, hmore⟩ := moreMembers_member first gap m.before
        (m.key ++ 0x22 :: (m.between.bytes ++ 0x3A :: value)) p
      obtain ⟨q₁, hliteral⟩ := readLiteral_key hkeys.1 value (q.after 0x22)
      obtain ⟨q₂, hcolon⟩ := skipColon_gap m.between value q₁
      obtain ⟨q₃, hread⟩ := hmember.reads.run m.value.before tail q₂
        ((ends_membersText (members.map (·.2)) rest).gap m.value.after)
      obtain ⟨q₄, hrest⟩ := ih hkeys.2 false m.value.after q₃
      refine ⟨q₄, ?_⟩
      rw [List.map_cons, membersText_cons, readMembers_of_more hmore]
      simp only [Cursor.next_cons, hliteral, not_repeated.2 hnew, Bool.false_eq_true, if_false,
        hcolon, value, hread, if_pos (before_member first gap m tail p q₃)]
      refine hrest.trans ?_
      simp

/-- A record is read from an object that has the members that have to be there. -/
theorem reads_of_takes (gap : Gap) {members : List (String × MemberText)} {t : σ}
    (h : Takes r [] r.initial members t) (hkeys : ∀ m ∈ members, Writes m.1.toList m.2.key)
    (hrequired : ∀ m ∈ r.members, m.required = true → m.key ∈ members.map (·.1)) :
    Reads r.read (objectText gap (members.map (·.2))) t := by
  refine reads_atValue (opens_objectText _ _) fun rest p _ => ?_
  obtain ⟨q, hrun⟩ := readMembers_members h hkeys true gap rest (p.after 0x7B)
  have hmissing : r.missing? (members.map (·.1)).reverse = none := by
    unfold missing?
    rw [List.find?_eq_none]
    intro m hm hgone
    simp only [Bool.and_eq_true, Bool.not_eq_true', List.contains_eq_mem, List.mem_reverse,
      decide_eq_false_iff_not] at hgone
    exact hgone.2 (hrequired m hm hgone.1)
  have hobject : r.readObject
      ⟨gap.bytes ++ (membersText true (members.map (·.2)) ++ 0x7D :: rest), p.after 0x7B⟩ =
        .ok (t, ⟨0x7D :: rest, q⟩) := by
    unfold readObject
    rw [hrun]
    simp only [List.append_nil, hmissing]
  refine ⟨q.after 0x7D, ?_⟩
  rw [objectText_append, Cursor.head?_cons, Cursor.next_cons, hobject]
  rfl

/-- A record is read from the compact text of an object. -/
theorem reads_object_of_takes {members : List (String × Json)} {t : σ}
    (h : Takes r [] r.initial (compactMembers members) t)
    (hrequired : ∀ m ∈ r.members, m.required = true → m.key ∈ members.map (·.1)) :
    Reads r.read (bytes (.object members)) t := by
  rw [bytes_object]
  refine reads_of_takes {} h (fun m hm => ?_) (by rwa [keys_compactMembers])
  obtain ⟨m', -, rfl⟩ := List.mem_map.1 hm
  exact writes_literalBytes m'.1

end Record

end Stevedore.Json
