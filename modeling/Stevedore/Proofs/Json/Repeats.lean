import Stevedore.Proofs.Json.Spelling
/-!
# Texts that repeat a member are refused

A list or an object is read part by part, and since readers are exact, each part is read where it
stands. In an object that was read no member of the record is there twice; so a text is refused if this
happens anywhere in it.

Main definition:

- `Json.Record.Entered`: what is known of the members of an object that was read.

Main results:

- Theorem `Json.readItems_ok`: the items of a list that was read.
- Theorem `Json.Record.readMembers_ok`: the members of an object that was read.
- Theorems `Json.follows_string`, `Json.Follows.list` and `Json.Record.Describes.follows`: readers that
  take every spelling and refuse what repeats a member.
- Theorems `Json.Follows.decode_of_spells` and `Json.Follows.not_decoded`: whole texts.
-/

namespace Stevedore.Json

/-! ## Scalars -/

/-- Strings are read in the one form they have. -/
theorem follows_string : Follows readString .string where
  accepts _ _ h := accepts_string h
  stops := exact_readText "a string"
  refuses _ h := h.elim

/-- Values that are read back and written in one way are read in one form. -/
theorem follows_exactly {α : Type} {read : Reader α} {write : α → Json} (hexact : Exact read)
    (h : ∀ a, Reads read (bytes (write a)) a) : Follows read (.exactly write) where
  accepts a _ ht := ht ▸ h a
  stops := hexact
  refuses _ h := h.elim

/-! ## Lists -/

section Lists

variable {α : Type} {read : Reader α}

/-- Every item of a list that was read was read where it stands. -/
theorem readItems_ok (hread : Exact read) {items : List ItemText}
    (hitems : ∀ i ∈ items, ValueText i.text) {first : Bool} {gap : Gap} {rest : List UInt8}
    {p : Position} {xs : List α} {after : Cursor}
    (h : readItems read first ⟨gap.bytes ++ (itemsText first items ++ 0x5D :: rest), p⟩ =
      .ok (xs, after)) :
    (∃ q, after = ⟨0x5D :: rest, q⟩) ∧ ∀ i ∈ items, Admits read i.text := by
  induction items generalizing first gap p xs with
  | nil =>
      obtain ⟨q, hmore⟩ := moreItems_end first gap rest p
      rw [itemsText, List.nil_append, readItems, hmore] at h
      obtain ⟨-, rfl⟩ := Prod.mk.inj (Except.ok.inj h)
      exact ⟨⟨q, rfl⟩, by simp⟩
  | cons i items ih =>
      rw [List.forall_mem_cons] at hitems
      have hends := (ends_itemsText items rest).gap i.after
      obtain ⟨q, hmore⟩ := moreItems_item first gap i.before hitems.1.opens
        (i.after.bytes ++ (itemsText false items ++ 0x5D :: rest)) p
      rw [itemsText_cons, readItems] at h
      simp only [hmore] at h
      split at h
      · contradiction
      · next a here hvalue =>
          obtain ⟨q', rfl⟩ := hread i.text hitems.1 {} _ q a here hends hvalue
          split at h
          · split at h
            · next hrest =>
                obtain ⟨-, rfl⟩ := Prod.mk.inj (Except.ok.inj h)
                obtain ⟨hafter, hadmits⟩ := ih hitems.2 hrest
                refine ⟨hafter, ?_⟩
                rw [List.forall_mem_cons]
                exact ⟨⟨{}, _, q, a, _, hends, hvalue⟩, hadmits⟩
            · contradiction
          · contradiction

/-- A list that was read ends with its text, and its items were read. -/
theorem readList_ok (hread : Exact read) {gap : Gap} {items : List ItemText}
    (hitems : ∀ i ∈ items, ValueText i.text) {before : Gap} {rest : List UInt8} {p : Position}
    {xs : List α} {after : Cursor}
    (h : readList read ⟨before.bytes ++ (listText gap items ++ rest), p⟩ = .ok (xs, after)) :
    (∃ q, after = ⟨rest, q⟩) ∧ ∀ i ∈ items, Admits read i.text := by
  obtain ⟨q, hskip, -⟩ := (opens_listText gap items).skipBlanks_gap before rest p
  have hhere := atValue_ok h
  rw [hskip, if_pos (head?_listText gap items rest q), listText_append] at hhere
  obtain ⟨stop, hstop, -, rfl⟩ := closing_ok hhere
  obtain ⟨⟨q', rfl⟩, hadmits⟩ := readItems_ok hread hitems hstop
  exact ⟨⟨_, rfl⟩, hadmits⟩

/-- Lists of values that are read in a form are read in the form of lists. -/
theorem Follows.list {form : Form α} (h : Follows read form) : Follows (readList read) form.list where
  accepts _ _ ht := accepts_list h.accepts ht
  stops := by
    intro t ht before rest p xs after _ hread
    obtain ⟨q, hskip, -⟩ := ht.opens.skipBlanks_gap before rest p
    have hhere := atValue_ok hread
    rw [hskip] at hhere
    split at hhere
    · next hbracket =>
        obtain ⟨gap, items, rfl, hitems⟩ := ht.of_bracket hbracket
        exact (readList_ok h.stops hitems hread).1
    · exact absurd hhere (mismatch_ne_ok _ _ _ _)
  refuses := by
    rintro t ⟨gap, items, rfl, hitems, i, hi, hrepeats⟩ ⟨before, rest, p, xs, after, -, hread⟩
    exact h.refuses i.text hrepeats ((readList_ok h.stops hitems hread).2 i hi)

end Lists

/-! ## Records -/

namespace Record

variable {σ : Type} {r : Record σ}

/-- In an object that was read, after members with the keys `seen`, no member of the record is there
twice, and the value of each member was read. -/
structure Entered (r : Record σ) (seen : List String) (members : List MemberText) : Prop where
  fresh : ∀ m ∈ members, ∀ key, Writes key.toList m.key → key ∈ seen → r.member? key = none
  once : members.Pairwise fun m m' =>
    ∀ key, Writes key.toList m.key → Writes key.toList m'.key → r.member? key = none
  admits : ∀ m ∈ members, ∀ key, Writes key.toList m.key →
    ∃ s, Admits (r.readMember key s) m.value.text

/-- Members are entered if the first one is, and the others with its key among those that were seen. -/
theorem Entered.cons {seen : List String} {m : MemberText} {members : List MemberText} {key : String}
    {s : σ} (hkey : ∀ key', Writes key'.toList m.key → key' = key)
    (hnew : key ∈ seen → r.member? key = none) (hvalue : Admits (r.readMember key s) m.value.text)
    (h : r.Entered (key :: seen) members) : r.Entered seen (m :: members) where
  fresh := by
    rw [List.forall_mem_cons]
    refine ⟨fun key' hwrites => ?_, fun m' hm' key' hwrites hseen => ?_⟩
    · rw [hkey key' hwrites]
      exact hnew
    · exact h.fresh m' hm' key' hwrites (List.mem_cons_of_mem key hseen)
  once := by
    rw [List.pairwise_cons]
    refine ⟨fun m' hm' key' hwrites hwrites' => ?_, h.once⟩
    refine h.fresh m' hm' key' hwrites' ?_
    rw [hkey key' hwrites]
    exact List.mem_cons_self
  admits := by
    rw [List.forall_mem_cons]
    refine ⟨fun key' hwrites => ?_, h.admits⟩
    rw [hkey key' hwrites]
    exact ⟨s, hvalue⟩

/-- If a key is read, it is the one that is written. -/
theorem key_of_readLiteral {m : MemberText} {tail : List UInt8} {p : Position} {key : String}
    {after : Cursor} (h : readLiteral ⟨m.key ++ 0x22 :: tail, p⟩ = .ok (key, after)) (key' : String)
    (hwrites : Writes key'.toList m.key) : key' = key := by
  obtain ⟨q, hread⟩ := readLiteral_writes hwrites tail p
  rw [h] at hread
  exact (Prod.mk.inj (Except.ok.inj hread)).1.symm

/-- Every member of an object that was read was read where it stands. -/
theorem readMembers_ok (hlast : r.lastCounts = false) (hread : ∀ key s, Exact (r.readMember key s))
    {members : List MemberText} (hmembers : MembersText members) {first : Bool} {seen seen' : List String}
    {s t : σ} {gap : Gap} {rest : List UInt8} {p : Position} {after : Cursor}
    (h : r.readMembers first seen s ⟨gap.bytes ++ (membersText first members ++ 0x7D :: rest), p⟩ =
      .ok ((t, seen'), after)) : (∃ q, after = ⟨0x7D :: rest, q⟩) ∧ r.Entered seen members := by
  induction members generalizing first seen s gap p with
  | nil =>
      obtain ⟨q, hmore⟩ := moreMembers_end first gap rest p
      rw [membersText, List.nil_append, readMembers, hmore] at h
      obtain ⟨-, rfl⟩ := Prod.mk.inj (Except.ok.inj h)
      exact ⟨⟨q, rfl⟩, by simp, .nil, by simp⟩
  | cons m members ih =>
      obtain ⟨hm, hmembers⟩ := List.forall_mem_cons.1 hmembers
      let tail := m.value.after.bytes ++ (membersText false members ++ 0x7D :: rest)
      let value := m.value.before.bytes ++ (m.value.text ++ tail)
      have hends : Ends tail := (ends_membersText members rest).gap m.value.after
      obtain ⟨q, hmore⟩ := moreMembers_member first gap m.before
        (m.key ++ 0x22 :: (m.between.bytes ++ 0x3A :: value)) p
      rw [membersText_cons, readMembers_of_more hmore] at h
      split at h
      · contradiction
      · next key colon hliteral =>
          obtain ⟨q₁, rfl⟩ := readLiteral_ok hm.1 hliteral
          obtain ⟨q₂, hcolon⟩ := skipColon_gap m.between value q₁
          split at h
          · contradiction
          · next hrepeated =>
              simp only [hcolon] at h
              split at h
              · contradiction
              · next u here hvalue =>
                  obtain ⟨q₃, rfl⟩ := hread key s m.value.text hm.2 m.value.before tail q₂ u here
                    hends hvalue
                  rw [if_pos (before_member first gap m tail p q₃)] at h
                  obtain ⟨hafter, hentered⟩ := ih hmembers h
                  refine ⟨hafter, hentered.cons (key_of_readLiteral hliteral) ?_
                    ⟨m.value.before, tail, q₂, u, _, hends, hvalue⟩⟩
                  rw [Bool.not_eq_true, not_repeated, hlast] at hrepeated
                  exact fun hseen => (hrepeated.resolve_left Bool.false_ne_true).resolve_right (not_not.2 hseen)

end Record

section Fields

variable {σ : Type} {fields : List (RecordField σ)} {f : RecordField σ} {m : Member σ}

/-- A member of a field reads exactly as far as its value. -/
theorem RecordField.ReadBy.stops (h : f.ReadBy fields m) (s : σ) : Exact (m.read s) := by
  cases h with
  | optional hread => exact hread.stops.map _

/-- The member takes no text that repeats a member. -/
theorem RecordField.ReadBy.refuses (h : f.ReadBy fields m) (s : σ) {t : List UInt8}
    (hrepeats : f.form.Repeats t) : ¬ Admits (m.read s) t := by
  cases h with
  | @optional read set hread =>
      rintro ⟨gap, rest, p, u, after, hrest, hok⟩
      change Reader.map (set · s) read _ = _ at hok
      unfold Reader.map at hok
      split at hok
      · next a here hvalue =>
          exact hread.refuses t hrepeats ⟨gap, rest, p, a, here, hrest, hvalue⟩
      · contradiction

end Fields

namespace Record.Describes

variable {σ : Type} {r : Record σ} {fields : List (RecordField σ)}

/-- A record reads every member exactly, whether it knows the member or not. -/
theorem stops_readMember (h : r.Describes fields) (key : String) (s : σ) :
    Exact (r.readMember key s) := by
  by_cases hkey : key ∈ keys fields
  · obtain ⟨f, hf, rfl⟩ := List.mem_map.1 hkey
    obtain ⟨m, hm, hread⟩ := h.member?_field hf
    rw [readMember_known hm]
    exact hread.stops s
  · rw [readMember_unknown (h.member?_other hkey), h.passOver]
    exact exact_skipValue.map _

/-- An object that was read ends with its text, and its members were read. -/
theorem object_ok (h : r.Describes fields) {gap : Gap} {members : List MemberText}
    (hmembers : MembersText members) {before : Gap} {rest : List UInt8} {p : Position} {t : σ}
    {after : Cursor}
    (hread : r.read ⟨before.bytes ++ (objectText gap members ++ rest), p⟩ = .ok (t, after)) :
    (∃ q, after = ⟨rest, q⟩) ∧ r.Entered [] members := by
  obtain ⟨q, hskip, -⟩ := (opens_objectText gap members).skipBlanks_gap before rest p
  have hok := read_ok hread
  rw [hskip, objectText_append] at hok
  rcases hok with ⟨-, seen, stop, hstop, rfl⟩ | ⟨hbracket, -⟩
  · obtain ⟨⟨q', rfl⟩, hentered⟩ := readMembers_ok h.lastCounts h.stops_readMember hmembers hstop
    exact ⟨⟨_, rfl⟩, hentered⟩
  · exact absurd (Option.some.inj hbracket) (by decide)

/-! ### Lists of values -/

/-- The values of a list that was read were read where they stand. -/
theorem readValues_ok {present : List (RecordField σ)} {members : List (Member σ)}
    (hmembers : List.Forall₂ (RecordField.ReadBy fields) present members) {items : List ItemText}
    (hitems : ∀ i ∈ items, ValueText i.text) {index : Nat} {first : Bool} {s t : σ} {gap : Gap}
    {rest : List UInt8} {p : Position} {stop : Cursor}
    (h : r.readValues index first s members ⟨gap.bytes ++ (itemsText first items ++ 0x5D :: rest), p⟩ =
      .ok (t, stop)) (hclosed : stop.skipBlanks.head? = some ']') :
    (∃ q, stop.skipBlanks.next = ⟨rest, q⟩) ∧
      ∀ x ∈ present.zip items, ¬ x.1.form.Repeats x.2.text := by
  induction hmembers generalizing items index first s gap p with
  | nil =>
      obtain ⟨rfl, rfl⟩ := Prod.mk.inj (Except.ok.inj h)
      cases items with
      | nil =>
          obtain ⟨q, hskip⟩ := Cursor.skipBlanks_gap gap (b := 0x5D) (by decide) rest p
          refine ⟨⟨q.after 0x5D, ?_⟩, by simp⟩
          rw [itemsText, List.nil_append, hskip]
          rfl
      | cons i items =>
          rw [List.forall_mem_cons] at hitems
          rw [itemsText_cons] at hclosed
          exact absurd hclosed (head?_separator_ne first gap i.before hitems.1.opens _ p)
  | @cons f m present members hread _ ih =>
      cases items with
      | nil =>
          obtain ⟨q, hmore⟩ := moreItems_end first gap rest p
          rw [itemsText, List.nil_append, readValues, hmore] at h
          simp only [hread.required, Bool.false_eq_true, if_false] at h
          obtain ⟨hstop, -⟩ := @ih [] (by simp) (index + 1) first s {} q h
          exact ⟨hstop, by simp⟩
      | cons i items =>
          rw [List.forall_mem_cons] at hitems
          have hends := (ends_itemsText items rest).gap i.after
          obtain ⟨q, hmore⟩ := moreItems_item first gap i.before hitems.1.opens
            (i.after.bytes ++ (itemsText false items ++ 0x5D :: rest)) p
          rw [itemsText_cons, readValues, hmore] at h
          simp only at h
          split at h
          · contradiction
          · next u here hvalue =>
              obtain ⟨q', rfl⟩ := hread.stops s i.text hitems.1 {} _ q u here hends hvalue
              obtain ⟨hstop, hrefused⟩ := ih hitems.2 h
              refine ⟨hstop, ?_⟩
              rw [List.zip_cons_cons, List.forall_mem_cons]
              refine ⟨fun hrepeats => ?_, hrefused⟩
              exact hread.refuses s hrepeats ⟨{}, _, q, u, _, hends, hvalue⟩

/-- A list that was read as a record ends with its text, and its values were read. -/
theorem list_ok (h : r.Describes fields) {gap : Gap} {items : List ItemText}
    (hitems : ∀ i ∈ items, ValueText i.text) {before : Gap} {rest : List UInt8} {p : Position} {t : σ}
    {after : Cursor}
    (hread : r.read ⟨before.bytes ++ (listText gap items ++ rest), p⟩ = .ok (t, after)) :
    (∃ q, after = ⟨rest, q⟩) ∧ ∀ x ∈ fields.zip items, ¬ x.1.form.Repeats x.2.text := by
  obtain ⟨q, hskip, -⟩ := (opens_listText gap items).skipBlanks_gap before rest p
  have hok := read_ok hread
  rw [hskip, listText_append] at hok
  rcases hok with ⟨hbrace, -⟩ | ⟨-, stop, hstop, hclosed, rfl⟩
  · exact absurd (Option.some.inj hbrace) (by decide)
  · exact readValues_ok h.members hitems hstop hclosed

/-- The reader of a record takes every text of a record for the record, and none in which a member is
repeated. -/
theorem follows (h : r.Describes fields) : Follows r.read (.record r.initial fields) where
  accepts _ _ ht := h.accepts ht
  stops := by
    intro t ht before rest p s after _ hread
    obtain ⟨q, hskip, -⟩ := ht.opens.skipBlanks_gap before rest p
    have hok := read_ok hread
    rw [hskip] at hok
    rcases hok with ⟨hbrace, -⟩ | ⟨hbracket, -⟩
    · obtain ⟨gap, members, rfl, hmembers⟩ := ht.of_brace hbrace
      exact (h.object_ok hmembers hread).1
    · obtain ⟨gap, items, rfl, hitems⟩ := ht.of_bracket hbracket
      exact (h.list_ok hitems hread).1
  refuses := by
    rintro t hrepeats ⟨before, rest, p, s, after, -, hread⟩
    cases hrepeats with
    | @member gap members hmembers key hkey m m' htwice hm hm' =>
        have honce := (h.object_ok hmembers hread).2.once.sublist htwice
        obtain ⟨f, hf, rfl⟩ := List.mem_map.1 hkey
        obtain ⟨member, hmember, -⟩ := h.member?_field hf
        have hnone := (List.pairwise_pair.1 honce) f.key hm hm'
        rw [hmember] at hnone
        contradiction
    | @value gap members hmembers f hf m hm hkey hrepeats =>
        obtain ⟨u, hadmits⟩ := (h.object_ok hmembers hread).2.admits m hm f.key hkey
        obtain ⟨member, hmember, hreadBy⟩ := h.member?_field hf
        rw [readMember_known hmember] at hadmits
        exact hreadBy.refuses u hrepeats hadmits
    | @item gap items hitems f i hplace hrepeats =>
        exact (h.list_ok hitems hread).2 _ hplace hrepeats

end Record.Describes

/-! ## Whole texts -/

section Texts

variable {α : Type} {read : Reader α} {form : Form α} {t : List UInt8}

/-- Every text of a value is decoded as the value. -/
theorem Follows.decode_of_spells (h : Follows read form) {a : α} (ht : form.Spells a t)
    (before after : Gap) : decode read (.ofBytes (before.bytes ++ (t ++ after.bytes))) = .ok a :=
  (h.accepts a t ht).decode before after

/-- What is written of a value is decoded as the value. -/
theorem Follows.decode_of_written (h : Follows read form) {write : α → Json}
    (hwritten : Written form write) (a : α) : decodeString read (write a).render = .ok a :=
  decodeString_of_reads (h.accepts a _ (hwritten a))

/-- A text that repeats a member is not decoded. -/
theorem Follows.not_decoded (h : Follows read form) (ht : form.Repeats t) (before after : Gap) :
    ∃ e, decode read (.ofBytes (before.bytes ++ (t ++ after.bytes))) = .error e := by
  cases hdecode : decode read (.ofBytes (before.bytes ++ (t ++ after.bytes))) with
  | error e => exact ⟨e, rfl⟩
  | ok a =>
      obtain ⟨stop, hread⟩ := decode_ok hdecode
      exact absurd ⟨before, after.bytes, _, a, stop, after.ends, hread⟩ (h.refuses t ht)

end Texts

end Stevedore.Json
