import Stevedore.Json.Record
import Stevedore.Proofs.Json.Skip
/-!
# How much is read

What is read of a text is what would be passed over, and of the text of a value that is all of it. So a
reader that takes the text of a value for something stops where the text ends, whatever it makes of it.

Main definition:

- `Json.Exact`: a reader takes all of the text of a value.

Main results:

- Theorems `closing_ok`, `mismatch_ne_ok` and `Record.read_ok`: how a value may have been read.
- Theorems `exact_readText`, `exact_readInteger` and `exact_skipValue`: readers that are exact.
-/

namespace Stevedore.Json

/-! ## Where something was read -/

/-- A value that was read was read after the blanks. -/
theorem atValue_ok {read : Reader α} {c after : Cursor} {a : α}
    (h : atValue c read = .ok (a, after)) : read c.skipBlanks = .ok (a, after) := by
  unfold atValue at h
  by_cases hend : c.skipBlanks.rest.isEmpty
  · simp [hend, fail] at h
  · simpa [hend] using h

/-- A bracket that closes is the next byte after the blanks. -/
theorem close_ok {b : Bracket} {c after : Cursor} (h : close b c = (after, .ok ())) :
    c.skipBlanks.head? = some b.closer ∧ after = c.skipBlanks.next := by
  unfold close at h
  dsimp only at h
  split at h
  · cases (Prod.mk.inj h).2
  · split at h
    · next hcloser => exact ⟨hcloser, (Prod.mk.inj h).1.symm⟩
    · split at h
      · cases b <;> cases (Prod.mk.inj h).2
      · cases (Prod.mk.inj h).2

/-- What a bracket closed was read before, and the bracket stands after it. -/
theorem closing_ok {b : Bracket} {read : Read α} {after : Cursor} {a : α}
    (h : closing b read = .ok (a, after)) :
    ∃ stop, read = .ok (a, stop) ∧ stop.skipBlanks.head? = some b.closer ∧
      after = stop.skipBlanks.next := by
  unfold closing at h
  split at h
  · split at h
    · next hclose =>
        obtain ⟨rfl, rfl⟩ := Prod.mk.inj (Except.ok.inj h)
        exact ⟨_, rfl, close_ok hclose⟩
    · contradiction
  · contradiction
  · contradiction

/-- Where another kind of value is expected, nothing is read. -/
theorem mismatch_ne_ok (expected : String) (c : Cursor) (a : α) (after : Cursor) :
    mismatch expected c ≠ .ok (a, after) := by
  unfold mismatch
  dsimp only
  split
  iterate 4
    · split <;> simp [fail]
  · simp [fail]
  · simp [fail]
  · split
    · split <;> simp [fail]
    · simp [failAhead]
  · simp [failAhead]

/-- A text that was decoded was read up to some place. -/
theorem decode_ok {read : Reader α} {c : Cursor} {a : α} (h : decode read c = .ok a) :
    ∃ stop, read c = .ok (a, stop) := by
  unfold decode at h
  split at h
  · contradiction
  · next item stop hread =>
      by_cases hend : stop.skipBlanks.rest.isEmpty
      · obtain rfl : item = a := by simpa [hend] using h
        exact ⟨stop, hread⟩
      · simp [hend] at h

/-- A record is read from the members of an object or from a list of values. -/
theorem Record.read_ok {σ : Type} {r : Record σ} {c after : Cursor} {t : σ}
    (h : r.read c = .ok (t, after)) :
    (c.skipBlanks.head? = some '\x7b' ∧ ∃ seen stop,
      r.readMembers true [] r.initial c.skipBlanks.next = .ok ((t, seen), stop) ∧
        after = stop.skipBlanks.next) ∨
    (c.skipBlanks.head? = some '[' ∧ ∃ stop,
      r.readValues 0 true r.initial r.members c.skipBlanks.next = .ok (t, stop) ∧
        stop.skipBlanks.head? = some ']' ∧ after = stop.skipBlanks.next) := by
  have hread := atValue_ok h
  split at hread
  · next hbrace =>
      obtain ⟨stop, hobject, -, hafter⟩ := closing_ok hread
      unfold readObject at hobject
      split at hobject
      · contradiction
      · next u seen later hmembers =>
          split at hobject
          · contradiction
          · obtain ⟨rfl, rfl⟩ := Prod.mk.inj (Except.ok.inj hobject)
            exact .inl ⟨hbrace, seen, later, hmembers, hafter⟩
  · split at hread
    · next hbracket =>
        unfold readListForm at hread
        split at hread
        · exact .inr ⟨hbracket, closing_ok hread⟩
        · obtain ⟨stop, hfailed, -⟩ := closing_ok hread
          contradiction
        · exact absurd hread (mismatch_ne_ok _ _ _ _)
    · exact absurd hread (mismatch_ne_ok _ _ _ _)

/-! ## Literals that are read -/

/-- After four hexadecimal digits less of the text is left. -/
theorem length_of_readHexQuad {c after : Cursor} {n : Nat} (h : readHexQuad c = .ok (n, after)) :
    after.rest.length < c.rest.length := by
  obtain ⟨rest, p⟩ := c
  unfold readHexQuad at h
  split at h
  · next a b d e more hrest =>
      obtain rfl : rest = a :: b :: d :: e :: more := hrest
      split at h
      · obtain ⟨-, rfl⟩ := Prod.mk.inj (Except.ok.inj h)
        change more.length < more.length + 4
        omega
      · contradiction
  · contradiction

/-- The cursor at a character stands before the byte of the character. -/
theorem length_next_lt {c : Cursor} {x : Char} (h : c.head? = some x) :
    c.next.rest.length < c.rest.length := by
  obtain ⟨_ | ⟨b, rest⟩, p⟩ := c
  · contradiction
  · exact Nat.lt_succ_self _

/-- An escape is skipped before the rest of its literal. -/
theorem skipLiteral_of_skipEscape {c after : Cursor} (hhead : c.head? = some '\\')
    (h : skipEscape c.next = .ok ((), after)) (hroom : c.Before after) :
    skipLiteral c = skipLiteral after := by
  obtain ⟨_ | ⟨b, rest⟩, p⟩ := c
  · contradiction
  · rw [Cursor.head?_cons, Option.some.injEq, ofNat_toNat_eq_iff] at hhead
    obtain rfl : b = 0x5C := UInt8.toNat_inj.1 hhead
    rw [skipLiteral]
    simp only [h, dif_pos hroom]
    rfl

/-- The code of an escape is passed over. -/
theorem skipLiteral_of_readHexQuad {c after : Cursor} {n : Nat} (hslash : c.head? = some '\\')
    (hu : c.next.head? = some 'u') (h : readHexQuad c.next.next = .ok (n, after)) :
    skipLiteral c = skipLiteral after := by
  refine skipLiteral_of_skipEscape hslash ?_ ?_
  · unfold skipEscape
    rw [hu]
    simp only [Reader.map, h]
  · have hquad := length_of_readHexQuad h
    have hfirst := length_next_lt hslash
    have hsecond := length_next_lt hu
    change after.rest.length < c.rest.length
    omega

/-- The second half of a pair is a unit of its own, after a backslash and the letter u. -/
theorem readTrailing_ok {lead : Nat} {c after : Cursor} {x : Char}
    (h : readTrailing lead c = .ok (x, after)) : c.head? = some '\\' ∧ c.next.head? = some 'u' ∧
      ∃ trail, readHexQuad c.next.next = .ok (trail, after) := by
  unfold readTrailing at h
  split at h
  · contradiction
  · next hslash =>
      split at h
      · contradiction
      · next hu =>
          split at h
          · next trail later hquad =>
              split at h
              · obtain ⟨-, rfl⟩ := Prod.mk.inj (Except.ok.inj h)
                exact ⟨hslash, hu, trail, hquad⟩
              · contradiction
          · contradiction
      · contradiction
  · contradiction

/-- A code is read alone, or with the other half of a surrogate pair. -/
theorem readCodePoint_ok {c after : Cursor} {x : Char} (h : readCodePoint c = .ok (x, after)) :
    ∃ n here, readHexQuad c = .ok (n, here) ∧
      (after = here ∨ readTrailing n here = .ok (x, after)) := by
  unfold readCodePoint at h
  split at h
  · next n here hquad =>
      refine ⟨n, here, hquad, ?_⟩
      split at h
      · contradiction
      · split at h
        · exact .inr h
        · exact .inl (Prod.mk.inj (Except.ok.inj h)).2.symm
  · contradiction

/-- An escape that is read is passed over; a surrogate pair is two escapes. -/
theorem skipLiteral_of_readEscape {c after : Cursor} {x : Char} (hslash : c.head? = some '\\')
    (h : readEscape c.next = .ok (x, after)) : skipLiteral c = skipLiteral after := by
  unfold readEscape at h
  split at h
  · contradiction
  · next hu =>
      obtain ⟨n, here, hquad, rfl | htrailing⟩ := readCodePoint_ok h
      · exact skipLiteral_of_readHexQuad hslash hu hquad
      · obtain ⟨hslash', hu', trail, hquad'⟩ := readTrailing_ok htrailing
        rw [skipLiteral_of_readHexQuad hslash hu hquad]
        exact skipLiteral_of_readHexQuad hslash' hu' hquad'
  · next letter hu hletter =>
      split at h
      · next ch hescaped =>
          obtain ⟨-, rfl⟩ := Prod.mk.inj (Except.ok.inj h)
          refine skipLiteral_of_skipEscape hslash ?_ ?_
          · unfold skipEscape
            rw [hletter]
            split
            · contradiction
            · next hu' => exact absurd (Option.some.inj hu') hu
            · next heq =>
                obtain rfl := Option.some.inj heq
                simp [hescaped]
          · have hfirst := length_next_lt hslash
            have hsecond := length_next_lt hletter
            change c.next.next.rest.length < c.rest.length
            omega
      · contradiction

/-- A literal that is read is passed over. -/
theorem skipLiteral_of_readLiteralBytes {c after : Cursor} {bytes : List UInt8}
    (h : readLiteralBytes c = .ok (bytes, after)) : skipLiteral c = .ok ((), after) := by
  fun_induction readLiteralBytes c generalizing bytes with
  | case2 c rest hrest =>
      obtain ⟨-, rfl⟩ := Prod.mk.inj (Except.ok.inj h)
      obtain ⟨bytes, p⟩ := c
      obtain rfl : bytes = 0x22 :: rest := hrest
      rw [skipLiteral]
      rfl
  | case4 c rest ch here hescape _ found later hlater hrest _ ih =>
      obtain ⟨-, rfl⟩ := Prod.mk.inj (Except.ok.inj h)
      have hslash : c.head? = some '\\' := by
        obtain ⟨bytes, p⟩ := c
        obtain rfl : bytes = 0x5C :: rest := hrest
        rfl
      rw [skipLiteral_of_readEscape hslash hescape]
      exact ih hlater
  | case8 c b rest hrest hquote hslash hcontrol found later hlater ih =>
      obtain ⟨-, rfl⟩ := Prod.mk.inj (Except.ok.inj h)
      obtain ⟨bytes, p⟩ := c
      obtain rfl : bytes = b :: rest := hrest
      rw [skipLiteral]
      simp only [if_neg hquote, if_neg hslash, if_neg hcontrol]
      exact ih hlater
  | _ => simp [fail] at h

/-- A literal is read up to its closing quote. -/
theorem readLiteral_ok {body rest : List UInt8} (h : LiteralText body) {p : Position} {s : String}
    {after : Cursor} (hread : readLiteral ⟨body ++ 0x22 :: rest, p⟩ = .ok (s, after)) :
    ∃ q, after = ⟨rest, q⟩ := by
  unfold readLiteral at hread
  split at hread
  · next bytes stop hbytes =>
      obtain ⟨q, hskip⟩ := skipLiteral_text h rest p
      rw [skipLiteral_of_readLiteralBytes hbytes] at hskip
      split at hread
      · obtain ⟨-, rfl⟩ := Prod.mk.inj (Except.ok.inj hread)
        exact ⟨q, (Prod.mk.inj (Except.ok.inj hskip)).2⟩
      · contradiction
  · contradiction

/-! ## Integers that are read -/

/-- What is put together from a significand and an exponent is no integer. -/
theorem assemble_ne_integer (negative : Bool) (significand : Nat) (exponent : Int) (c : Cursor) (n : Int)
    (after : Cursor) : assemble negative significand exponent c ≠ .ok (.integer n, after) := by
  unfold assemble
  split
  · simp
  · simp [fail]

/-- A number with an exponent is no integer. -/
theorem readExponent_ne_integer (negative : Bool) (significand : Nat) (base : Int) (c : Cursor) (n : Int)
    (after : Cursor) : readExponent negative significand base c ≠ .ok (.integer n, after) := by
  unfold readExponent
  split
  next down c _ =>
  split
  · simp [fail]
  · split
    · split
      · simp
      · simp
      · exact assemble_ne_integer _ _ _ _ _ _
    · simp [fail]

/-- A number is no integer after its fraction, with an exponent or without. -/
theorem finish_ne_integer (negative : Bool) (significand : Nat) (exponent : Int) (c : Cursor) (n : Int)
    (after : Cursor) : finish negative significand exponent c ≠ .ok (.integer n, after) := by
  unfold finish
  split
  · exact readExponent_ne_integer _ _ _ _ _ _
  · exact readExponent_ne_integer _ _ _ _ _ _
  · exact assemble_ne_integer _ _ _ _ _ _

/-- A number with a point is no integer. -/
theorem readFraction_ne_integer (negative : Bool) (significand : Nat) (exponent : Int) (c : Cursor)
    (n : Int) (after : Cursor) : readFraction negative significand exponent c ≠ .ok (.integer n, after) := by
  unfold readFraction
  split
  · split <;> simp [fail, failAhead]
  · exact finish_ne_integer _ _ _ _ _ _

/-- After the digits of an integer there is neither fraction nor exponent. -/
theorem afterDigits_integer {negative : Bool} {ds : List Nat} {c after : Cursor} {n : Int}
    (h : afterDigits negative ds c = .ok (.integer n, after)) : skipFraction c = .ok ((), after) := by
  unfold afterDigits at h
  dsimp only at h
  unfold skipFraction
  split at h
  · exact absurd h (readFraction_ne_integer _ _ _ _ _ _)
  · exact absurd h (readExponent_ne_integer _ _ _ _ _ _)
  · exact absurd h (readExponent_ne_integer _ _ _ _ _ _)
  · have hafter : after = c := by
      split at h
      · unfold wholeNumber at h
        split at h
        · exact (Prod.mk.inj (Except.ok.inj h)).2.symm
        · split at h
          · exact (Prod.mk.inj (Except.ok.inj h)).2.symm
          · exact absurd h (assemble_ne_integer _ _ _ _ _ _)
      · exact absurd h (assemble_ne_integer _ _ _ _ _ _)
    rw [hafter]

/-- A number that was read as an integer is skipped as far as it was read. -/
theorem skipUnsigned_of_readUnsigned {negative : Bool} {c after : Cursor} {n : Int}
    (h : readUnsigned negative c = .ok (.integer n, after)) : skipUnsigned c = .ok ((), after) := by
  unfold readUnsigned at h
  unfold skipUnsigned
  split at h
  · contradiction
  · split at h
    · contradiction
    · next hdigit =>
        rw [if_neg hdigit]
        split at h
        · next hzero =>
            rw [if_pos hzero]
            split at h
            · contradiction
            · next hnext =>
                rw [if_neg hnext]
                exact afterDigits_integer h
        · next hzero =>
            rw [if_neg hzero]
            exact afterDigits_integer h

/-- An integer is read up to the end of its text. -/
theorem readNumber_ok {t rest : List UInt8} (h : NumberText t) (hrest : Ends rest) {p : Position}
    {n : Int} {after : Cursor} (hread : readNumber ⟨t ++ rest, p⟩ = .ok (.integer n, after)) :
    ∃ q, after = ⟨rest, q⟩ := by
  obtain ⟨q, hskip⟩ := skipNumber_text h hrest p
  have hsame : skipNumber ⟨t ++ rest, p⟩ = .ok ((), after) := by
    unfold readNumber at hread
    rw [skipNumber_eq]
    split at hread
    · next hminus =>
        rw [if_pos hminus]
        exact skipUnsigned_of_readUnsigned hread
    · next hminus =>
        rw [if_neg hminus]
        exact skipUnsigned_of_readUnsigned hread
  rw [hsame] at hskip
  exact ⟨q, (Prod.mk.inj (Except.ok.inj hskip)).2⟩

/-! ## How the text of a value begins -/

/-- The first byte of a text tells the kind of its value. -/
theorem ValueText.first {t : List UInt8} (h : ValueText t) : ∃ b more, t = b :: more ∧
    (b = 0x22 → ∃ body, t = 0x22 :: (body ++ [0x22]) ∧ LiteralText body) ∧
    (b = 0x5B → ∃ gap items, t = listText gap items ∧ ∀ i ∈ items, ValueText i.text) ∧
    (b = 0x7B → ∃ gap members, t = objectText gap members ∧ MembersText members) ∧
    (b = 0x2D ∨ (digit? b).isSome → NumberText t) := by
  cases h with
  | null => exact ⟨_, _, rfl, nofun, nofun, nofun, fun h => absurd h (by decide)⟩
  | true => exact ⟨_, _, rfl, nofun, nofun, nofun, fun h => absurd h (by decide)⟩
  | false => exact ⟨_, _, rfl, nofun, nofun, nofun, fun h => absurd h (by decide)⟩
  | number h =>
      obtain ⟨b, more, rfl, hb⟩ := h.exists_first
      have hne {b' : UInt8} (hsign : b' ≠ 0x2D) (hnone : digit? b' = none) : b ≠ b' := by
        rcases hb with rfl | hdigit
        · exact hsign.symm
        · exact ne_of_digit hdigit hnone
      exact ⟨b, more, rfl, fun h => absurd h (hne (by decide) rfl),
        fun h => absurd h (hne (by decide) rfl), fun h => absurd h (hne (by decide) rfl), fun _ => h⟩
  | string h => exact ⟨_, _, rfl, fun _ => ⟨_, rfl, h⟩, nofun, nofun, fun h => absurd h (by decide)⟩
  | list gap h =>
      exact ⟨_, _, rfl, nofun, fun _ => ⟨gap, _, rfl, h⟩, nofun, fun h => absurd h (by decide)⟩
  | object gap hkeys h =>
      refine ⟨_, _, rfl, nofun, nofun, fun _ => ⟨gap, _, rfl, fun m hm => ?_⟩,
        fun h => absurd h (by decide)⟩
      exact ⟨hkeys m hm, h m hm⟩

section Kinds

variable {t rest : List UInt8} {p : Position}

theorem eq_of_head? {b : UInt8} {more : List UInt8} {x : Char}
    (h : (Cursor.mk (b :: more) p).head? = some x) : b.toNat = x.toNat := by
  rwa [Cursor.head?_cons, Option.some.injEq, ofNat_toNat_eq_iff] at h

/-- A value that starts with a quote is a literal. -/
theorem ValueText.of_quote (h : ValueText t) (hhead : (Cursor.mk (t ++ rest) p).head? = some '"') :
    ∃ body, t = 0x22 :: (body ++ [0x22]) ∧ LiteralText body := by
  obtain ⟨b, more, rfl, hstring, -⟩ := h.first
  exact hstring (UInt8.toNat_inj.1 (eq_of_head? hhead))

/-- A value that starts with a bracket is a list. -/
theorem ValueText.of_bracket (h : ValueText t) (hhead : (Cursor.mk (t ++ rest) p).head? = some '[') :
    ∃ gap items, t = listText gap items ∧ ∀ i ∈ items, ValueText i.text := by
  obtain ⟨b, more, rfl, -, hlist, -⟩ := h.first
  exact hlist (UInt8.toNat_inj.1 (eq_of_head? hhead))

/-- A value that starts with a brace is an object. -/
theorem ValueText.of_brace (h : ValueText t) (hhead : (Cursor.mk (t ++ rest) p).head? = some '\x7b') :
    ∃ gap members, t = objectText gap members ∧ MembersText members := by
  obtain ⟨b, more, rfl, -, -, hobject, -⟩ := h.first
  exact hobject (UInt8.toNat_inj.1 (eq_of_head? hhead))

/-- A value that starts with a sign or a digit is a number. -/
theorem ValueText.of_sign (h : ValueText t) (hhead : (Cursor.mk (t ++ rest) p).head? = some '-' ∨
    (Cursor.mk (t ++ rest) p).atDigit) : NumberText t := by
  obtain ⟨b, more, rfl, -, -, -, hnumber⟩ := h.first
  refine hnumber (hhead.imp_left fun hminus => ?_)
  have hbyte := eq_of_head? hminus
  exact UInt8.toNat_inj.1 hbyte

end Kinds

/-! ## Readers that take all of a text -/

/-- Where the reader takes the text of a value for something, it takes all of it. -/
def Exact (read : Reader α) : Prop :=
  ∀ t, ValueText t → ∀ (gap : Gap) rest p a after, Ends rest →
    read ⟨gap.bytes ++ (t ++ rest), p⟩ = .ok (a, after) → ∃ q, after = ⟨rest, q⟩

/-- What reads exactly does so with a function applied to the result. -/
theorem Exact.map {read : Reader α} (h : Exact read) (f : α → β) : Exact (Reader.map f read) := by
  intro t ht gap rest p b after hrest hread
  unfold Reader.map at hread
  split at hread
  · next a c hfound =>
      obtain ⟨-, rfl⟩ := Prod.mk.inj (Except.ok.inj hread)
      exact h t ht gap rest p a _ hrest hfound
  · contradiction

/-- A reader that begins at the value is exact if it is without blanks before the value. -/
theorem exact_atValue {read : Reader α} (h : ∀ t, ValueText t → ∀ rest p a after, Ends rest →
    read ⟨t ++ rest, p⟩ = .ok (a, after) → ∃ q, after = ⟨rest, q⟩) :
    Exact fun c => atValue c read := by
  intro t ht gap rest p a after hrest hread
  obtain ⟨q, hskip, -⟩ := ht.opens.skipBlanks_gap gap rest p
  have hhere := atValue_ok hread
  rw [hskip] at hhere
  exact h t ht rest q a after hrest hhere

/-- Skipping a value is exact. -/
theorem exact_skipValue : Exact skipValue := by
  intro t ht gap rest p a after hrest hread
  obtain ⟨q, hskip⟩ := skipValue_text ht hrest gap p
  rw [hread] at hskip
  exact ⟨q, (Prod.mk.inj (Except.ok.inj hskip)).2⟩

/-- Reading a string is exact, whatever it is expected to be. -/
theorem exact_readText (expected : String) : Exact (readText expected) := by
  refine exact_atValue fun t ht rest p s after _ hread => ?_
  split at hread
  · next hquote =>
      obtain ⟨body, rfl, hbody⟩ := ht.of_quote hquote
      rw [List.cons_append, List.append_assoc, Cursor.next_cons] at hread
      exact readLiteral_ok hbody hread
  · exact absurd hread (mismatch_ne_ok _ _ _ _)

/-- What is within bounds is an integer, and no more is read. -/
theorem withinBounds_ok {expected : String} {low high n : Int} {x : Number} {c after : Cursor}
    (h : withinBounds expected low high x c = .ok (n, after)) : x = .integer n ∧ after = c := by
  unfold withinBounds at h
  split at h
  · split at h
    · obtain ⟨rfl, rfl⟩ := Prod.mk.inj (Except.ok.inj h)
      exact ⟨rfl, rfl⟩
    · contradiction
  · contradiction

/-- Reading an integer within bounds is exact. -/
theorem exact_readInteger (expected : String) (low high : Int) :
    Exact (readInteger expected low high) := by
  refine exact_atValue fun t ht rest p n after hrest hread => ?_
  split at hread
  · next hsign =>
      split at hread
      · next x c hnumber =>
          obtain ⟨rfl, rfl⟩ := withinBounds_ok hread
          exact readNumber_ok (ht.of_sign hsign) hrest hnumber
      · contradiction
  · exact absurd hread (mismatch_ne_ok _ _ _ _)

theorem exact_readUInt16 : Exact readUInt16 := (exact_readInteger _ _ _).map _

theorem exact_readInt32 : Exact readInt32 := (exact_readInteger _ _ _).map _

end Stevedore.Json
