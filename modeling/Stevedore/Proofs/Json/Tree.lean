import Stevedore.Proofs.Json.Composite
/-!
# Any value read back

A value without fractions is read back as itself if it is not nested too deep.

Main definition:

- `Json.Plain`: the values without fractions, by the depth of their lists and objects.

Main result:

- Theorem `parse_render`: the text of such a value is read back as that value.
-/

namespace Stevedore.Json

/-! ## Values that are neither lists nor objects -/

/-- A value that is neither list nor object nor fraction; integers fit 64 bits. -/
inductive Scalar : Json → Prop
  | null : Scalar .null
  | boolean (b : Bool) : Scalar (.boolean b)
  | integer {n : Int} (hn : Fits n) : Scalar (.integer n)
  | string (s : String) : Scalar (.string s)

theorem opens_null : Opens (bytes .null) := ⟨_, _, bytes_null, by decide, by decide⟩

theorem opens_boolean (b : Bool) : Opens (bytes (.boolean b)) := by
  cases b with
  | true => exact ⟨_, _, bytes_true, by decide, by decide⟩
  | false => exact ⟨_, _, bytes_false, by decide, by decide⟩

theorem Scalar.opens {j : Json} (h : Scalar j) : Opens (bytes j) := by
  cases h with
  | null => exact opens_null
  | boolean b => exact opens_boolean b
  | integer => exact opens_integer _
  | string s => exact opens_string s

/-- The character that a number begins with. -/
theorem exists_head?_integer (n : Int) (rest : List UInt8) (p : Position) :
    ∃ c, (Cursor.mk (bytes (.integer n) ++ rest) p).head? = some c ∧
      (c.toNat = 45 ∨ (48 ≤ c.toNat ∧ c.toNat ≤ 57)) := by
  obtain ⟨b, more, hbytes, hb⟩ := exists_bytes_integer n
  refine ⟨Char.ofNat b.toNat, by rw [hbytes]; rfl, ?_⟩
  rw [toNat_ofNat_toNat]
  rcases hb with rfl | ⟨d, hd, rfl⟩
  · exact .inl rfl
  · right
    rw [toNat_digitByte hd]
    omega

/-- A scalar begins with no opening bracket. -/
theorem Scalar.noOpener {j : Json} (h : Scalar j) (rest : List UInt8) (p : Position) :
    (Cursor.mk (bytes j ++ rest) p).head?.bind Bracket.ofOpener? = none := by
  cases h with
  | null =>
      rw [bytes_null]
      rfl
  | boolean b =>
      cases b with
      | true =>
          rw [bytes_true]
          rfl
      | false =>
          rw [bytes_false]
          rfl
  | integer =>
      obtain ⟨c, hhead, hc⟩ := exists_head?_integer _ rest p
      rw [hhead]
      change Bracket.ofOpener? c = none
      unfold Bracket.ofOpener?
      split <;> simp_all
  | string s =>
      rw [bytes_string]
      rfl

/-- An integer that fits is read as this integer. -/
theorem readScalar_integer {n : Int} (hn : Fits n) {rest : List UInt8} (hrest : Ends rest)
    (p : Position) :
    ∃ q, readScalar ⟨bytes (.integer n) ++ rest, p⟩ = .ok (.integer n, ⟨rest, q⟩) := by
  obtain ⟨q, hrun⟩ := readNumber_integer hn hrest p
  obtain ⟨c, hhead, hc⟩ := exists_head?_integer n rest p
  have hat := at_integer n rest p
  refine ⟨q, ?_⟩
  unfold readScalar
  split
  · next h => simp [Option.some.inj (hhead.symm.trans h)] at hc
  · next h => simp [Option.some.inj (hhead.symm.trans h)] at hc
  · next h => simp [Option.some.inj (hhead.symm.trans h)] at hc
  · next h => simp [Option.some.inj (hhead.symm.trans h)] at hc
  · next x _ _ _ _ h =>
      rw [h, Option.some.injEq] at hat
      rw [if_pos hat, Reader.map, hrun]
      rfl
  · next h =>
      rw [hhead] at h
      contradiction

/-- A scalar is read as itself. -/
theorem Scalar.readScalar {j : Json} (h : Scalar j) {rest : List UInt8} (hrest : Ends rest)
    (p : Position) : ∃ q, readScalar ⟨bytes j ++ rest, p⟩ = .ok (j, ⟨rest, q⟩) := by
  cases h with
  | null =>
      rw [bytes_null]
      exact ⟨_, rfl⟩
  | boolean b =>
      cases b with
      | true =>
          rw [bytes_true]
          exact ⟨_, rfl⟩
      | false =>
          rw [bytes_false]
          exact ⟨_, rfl⟩
  | integer hn => exact readScalar_integer hn hrest p
  | string s =>
      obtain ⟨q, hrun⟩ := readLiteral_writes (writes_literalBytes s) rest (p.after 0x22)
      refine ⟨q, ?_⟩
      rw [bytes_string, List.cons_append, List.append_assoc]
      change Reader.map Json.string readLiteral ⟨literalBytes s ++ 0x22 :: rest, p.after 0x22⟩ = _
      rw [Reader.map, hrun]

/-! ## All values -/

/-- The value has no fractions, its integers fit 64 bits, and lists and objects are nested at most so
many levels deep. -/
inductive Plain : Nat → Json → Prop
  | scalar (room : Nat) {j : Json} (h : Scalar j) : Plain room j
  | array {room : Nat} {items : List Json} (h : ∀ x ∈ items, Plain room x) :
      Plain (room + 1) (.array items)
  | object {room : Nat} {members : List (String × Json)} (h : ∀ m ∈ members, Plain room m.2) :
      Plain (room + 1) (.object members)

/-- Where no bracket opens a tree is read as a scalar. -/
theorem readTree_of_scalar {c : Cursor} (h : (c.skipBlanks.head?.bind Bracket.ofOpener?) = none)
    (room : Nat) : readTree room c = atValue c readScalar := by
  cases room with
  | zero =>
      unfold readTree atValue
      simp only [h]
  | succ room =>
      unfold readTree atValue
      simp only [h]

/-- A value is read back as itself where it is not nested too deep. -/
theorem reads_tree {room : Nat} {j : Json} (h : Plain room j) :
    Reads (readTree room) (bytes j) j := by
  induction h with
  | @scalar room j h =>
      refine ⟨h.opens, fun gap rest p hrest => ?_⟩
      obtain ⟨q, hskip, -⟩ := h.opens.skipBlanks_gap gap rest p
      obtain ⟨q', hrun⟩ := (reads_atValue h.opens fun rest p hrest => h.readScalar hrest p).run
        gap rest p hrest
      refine ⟨q', ?_⟩
      rw [readTree_of_scalar (by rw [hskip]; exact h.noOpener rest q), hrun]
  | @array room items _ ih =>
      have hitems : List.Forall₂ (ReadsItem (readTree room)) items (items.map compactItem) := by
        rw [List.forall₂_map_right_iff, List.forall₂_same]
        exact ih
      rw [bytes_array, readTree]
      refine reads_atValue (opens_listText _ _) fun rest p _ => ?_
      obtain ⟨q, hrun⟩ := readItems_listText {} hitems rest p
      refine ⟨q.after 0x5D, ?_⟩
      change closing .list (Reader.map Json.array (readItems (readTree room) true) _) = _
      rw [Reader.map, hrun]
      rfl
  | @object room members _ ih =>
      have hmembers : List.Forall₂ (ReadsEntry (readTree room)) members
          ((compactMembers members).map (·.2)) := by
        rw [compactMembers, List.map_map, List.forall₂_map_right_iff, List.forall₂_same]
        exact fun m hm => ⟨writes_literalBytes m.1, ih m hm⟩
      rw [bytes_object, readTree]
      refine reads_atValue (opens_objectText _ _) fun rest p _ => ?_
      obtain ⟨q, hrun⟩ := readPairs_objectText {} hmembers rest p
      refine ⟨q.after 0x7D, ?_⟩
      change closing .object (Reader.map Json.object (readPairs (readTree room) true) _) = _
      rw [Reader.map, hrun]
      rfl

/-- The text of a value is read back as that value. -/
theorem parse_render {j : Json} (h : Plain maxDepth j) : parse j.render = .ok j :=
  decodeString_of_reads (reads_tree h)

end Stevedore.Json
