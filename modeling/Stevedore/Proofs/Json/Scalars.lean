import Stevedore.Proofs.Json.Grammar
/-!
# Literals and numbers read back

A string literal is read back as its text, whatever characters it holds, and an integer of 64 bits as
that integer.

Main definition:

- `Json.Reads`: a reader takes a text for what it stands for, wherever it stands. That other bytes may
  follow is what lets the readers of lists and objects be put together from those of their parts.

Main results:

- Theorem `readLiteral_writes`: the text of a literal.
- Theorem `readNumber_integer`: the value of an integer.
- Theorem `decodeString_of_reads`: what is read wherever it stands is read as a whole text.
- Theorems `reads_literal`, `reads_bareVariant` and `reads_integer`: the readers of scalars.
-/

namespace Stevedore.Json

open Text (utf8)

/-! ## String literals -/

/-- The byte stands for itself in a literal. -/
def IsRaw (b : UInt8) : Prop := 0x20 ≤ b.toNat ∧ b ≠ 0x22 ∧ b ≠ 0x5C

/-- The bytes of a character that is not escaped stand for themselves. -/
theorem isRaw_of_mem_utf8EncodeChar {c : Char} (hlow : 0x20 ≤ c.toNat) (hquote : c ≠ '"')
    (hslash : c ≠ '\\') {b : UInt8} (hb : b ∈ String.utf8EncodeChar c) : IsRaw b := by
  have hquote' : c.toNat ≠ 34 := fun h => hquote (Char.toNat_inj.1 h)
  have hslash' : c.toNat ≠ 92 := fun h => hslash (Char.toNat_inj.1 h)
  have hvalue : c.val.toNat = c.toNat := rfl
  have hraw : ∀ n, n < 256 → 0x20 ≤ n → n ≠ 34 → n ≠ 92 → IsRaw (UInt8.ofNat n) := by
    intro n hn hlow h34 h92
    have htoNat : (UInt8.ofNat n).toNat = n := UInt8.toNat_ofNat_of_lt' hn
    refine ⟨by omega, ?_, ?_⟩ <;> rw [ne_eq, ← UInt8.toNat_inj, htoNat]
    · exact h34
    · exact h92
  unfold String.utf8EncodeChar at hb
  simp only [hvalue] at hb
  split at hb
  · rw [List.mem_singleton.1 hb]
    exact hraw _ (by omega) hlow hquote' hslash'
  · split at hb
    · simp only [List.mem_cons, List.not_mem_nil, or_false] at hb
      rcases hb with rfl | rfl <;> exact hraw _ (by omega) (by omega) (by omega) (by omega)
    · split at hb
      · simp only [List.mem_cons, List.not_mem_nil, or_false] at hb
        rcases hb with rfl | rfl | rfl <;> exact hraw _ (by omega) (by omega) (by omega) (by omega)
      · simp only [List.mem_cons, List.not_mem_nil, or_false] at hb
        rcases hb with rfl | rfl | rfl | rfl <;>
          exact hraw _ (by omega) (by omega) (by omega) (by omega)

/-- What a literal stands for, after some bytes that come before it. -/
def after (bytes : List UInt8) : Read (List UInt8) → Read (List UInt8)
  | .ok (more, c) => .ok (bytes ++ more, c)
  | .error e => .error e

theorem after_nil (read : Read (List UInt8)) : after [] read = read := by
  unfold after
  split <;> rfl

/-- Bytes that need no escape stand for themselves in a literal. -/
theorem readLiteralBytes_raw {bytes : List UInt8} (h : ∀ b ∈ bytes, IsRaw b) (rest : List UInt8)
    (p : Position) : ∃ q, readLiteralBytes ⟨bytes ++ rest, p⟩ =
      after bytes (readLiteralBytes ⟨rest, q⟩) := by
  induction bytes generalizing p with
  | nil => exact ⟨p, (after_nil _).symm⟩
  | cons b more ih =>
      rw [List.forall_mem_cons] at h
      obtain ⟨hlow, hquote, hslash⟩ := h.1
      have hcontrol : ¬ b < 0x20 := by
        rw [UInt8.lt_iff_toNat_lt]
        exact Nat.not_lt.2 hlow
      obtain ⟨q, hmore⟩ := ih h.2 (p.after b)
      refine ⟨q, ?_⟩
      rw [List.cons_append, readLiteralBytes]
      simp only [if_neg hquote, if_neg hslash, if_neg hcontrol, hmore]
      cases readLiteralBytes ⟨rest, q⟩ <;> rfl

/-- An escape is read as its character. -/
theorem readLiteralBytes_escape {letters rest : List UInt8} {c : Char}
    (h : ∀ p, ∃ q, readEscape ⟨letters ++ rest, p⟩ = .ok (c, ⟨rest, q⟩)) (p : Position) :
    ∃ q, readLiteralBytes ⟨0x5C :: letters ++ rest, p⟩ =
      after (String.utf8EncodeChar c) (readLiteralBytes ⟨rest, q⟩) := by
  obtain ⟨q, hescape⟩ := h (p.after 0x5C)
  have hbefore : (Cursor.mk (0x5C :: (letters ++ rest)) p).Before ⟨rest, q⟩ := by
    simp only [Cursor.Before, List.length_cons, List.length_append]
    omega
  refine ⟨q, ?_⟩
  rw [List.cons_append, readLiteralBytes]
  simp only [Cursor.next_cons, hescape, dif_pos hbefore]
  cases readLiteralBytes ⟨rest, q⟩ <;> rfl

/-- The sixteen digits of an escape are read as their values. -/
theorem map_hexValue?_hexDigit :
    ∀ n < 16, (String.utf8EncodeChar (hexDigit n)).map hexValue? = [some n] := by
  decide

/-- A digit of an escape is one byte, and it is read as the value of the digit. -/
theorem hexValue?_hexDigit {n : Nat} (h : n < 16) :
    ∃ b, String.utf8EncodeChar (hexDigit n) = [b] ∧ hexValue? b = some n :=
  List.map_eq_singleton_iff.1 (map_hexValue?_hexDigit n h)

/-- How a character stands in a literal: after a backslash as one letter, or as its code, or as it
is. -/
theorem escape_cases (c : Char) :
    (∃ letter b, escape c = ['\\', letter] ∧ String.utf8EncodeChar letter = [b] ∧
      Char.ofNat b.toNat ≠ 'u' ∧ escaped? (Char.ofNat b.toNat) = some c) ∨
    (c.toNat < 0x20 ∧
      escape c = ['\\', 'u', '0', '0', hexDigit (c.toNat / 16), hexDigit (c.toNat % 16)]) ∨
    (0x20 ≤ c.toNat ∧ c ≠ '"' ∧ c ≠ '\\' ∧ escape c = [c]) := by
  have heq : ∀ {n : Nat}, c.toNat = n → c = Char.ofNat n := by
    rintro n rfl
    exact (Char.ofNat_toNat c).symm
  by_cases hquote : c = '"'
  · subst hquote
    exact .inl ⟨'"', 0x22, rfl, by decide, by decide, rfl⟩
  by_cases hback : c = '\\'
  · subst hback
    exact .inl ⟨'\\', 0x5C, rfl, by decide, by decide, rfl⟩
  by_cases h8 : c.toNat = 8
  · rw [heq h8]
    exact .inl ⟨'b', 0x62, rfl, by decide, by decide, rfl⟩
  by_cases h9 : c.toNat = 9
  · rw [heq h9]
    exact .inl ⟨'t', 0x74, rfl, by decide, by decide, rfl⟩
  by_cases h10 : c.toNat = 10
  · rw [heq h10]
    exact .inl ⟨'n', 0x6E, rfl, by decide, by decide, rfl⟩
  by_cases h12 : c.toNat = 12
  · rw [heq h12]
    exact .inl ⟨'f', 0x66, rfl, by decide, by decide, rfl⟩
  by_cases h13 : c.toNat = 13
  · rw [heq h13]
    exact .inl ⟨'r', 0x72, rfl, by decide, by decide, rfl⟩
  right
  unfold escape
  rw [if_neg hquote, if_neg hback, if_neg h8, if_neg h9, if_neg h10, if_neg h12, if_neg h13]
  by_cases hcontrol : c.toNat < 0x20
  · exact .inl ⟨hcontrol, if_pos hcontrol⟩
  · exact .inr ⟨Nat.le_of_not_lt hcontrol, hquote, hback, if_neg hcontrol⟩

theorem utf8EncodeChar_backslash : String.utf8EncodeChar '\\' = [0x5C] := by
  decide

/-- The code of a control character, after the backslash. -/
theorem exists_codeUnit {c : Char} (hc : c.toNat < 0x20) : ∃ digits,
    utf8 ['\\', 'u', '0', '0', hexDigit (c.toNat / 16), hexDigit (c.toNat % 16)] =
      0x5C :: 0x75 :: digits ∧ CodeUnit digits c.toNat := by
  obtain ⟨high, hhigh, hhighValue⟩ := hexValue?_hexDigit (n := c.toNat / 16) (by omega)
  obtain ⟨low, hlow, hlowValue⟩ := hexValue?_hexDigit (n := c.toNat % 16) (by omega)
  refine ⟨[0x30, 0x30, high, low], ?_, ?_⟩
  · have hu : String.utf8EncodeChar 'u' = [0x75] := by decide
    have hzero : String.utf8EncodeChar '0' = [0x30] := by decide
    simp [utf8EncodeChar_backslash, hu, hzero, hhigh, hlow]
  · have hzeroValue : hexValue? 0x30 = some 0 := by decide
    have hunit := CodeUnit.mk hzeroValue hzeroValue hhighValue hlowValue
    have hvalue : ((0 * 16 + 0) * 16 + c.toNat / 16) * 16 + c.toNat % 16 = c.toNat := by omega
    rwa [hvalue] at hunit

/-- The four digits of a code unit are read as the unit. -/
theorem readHexQuad_codeUnit {digits : List UInt8} {n : Nat} (h : CodeUnit digits n)
    (rest : List UInt8) (p : Position) : ∃ q, readHexQuad ⟨digits ++ rest, p⟩ = .ok (n, ⟨rest, q⟩) := by
  cases h with
  | @mk a b d e u v w x ha hb hd he =>
      refine ⟨(((p.after a).after b).after d).after e, ?_⟩
      simp only [readHexQuad, List.cons_append, List.nil_append, ha, hb, hd, he, Cursor.next_cons]

/-- A character is no half of a surrogate pair. -/
theorem not_surrogate (c : Char) : isTrailing c.toNat = false ∧ isLeading c.toNat = false := by
  have hvalid : c.toNat < 0xD800 ∨ 0xDFFF < c.toNat ∧ c.toNat < 0x110000 := c.valid
  unfold isTrailing isLeading
  simp
  omega

/-- A character is read from its code. -/
theorem readEscape_code {c : Char} {digits : List UInt8} (h : CodeUnit digits c.toNat)
    (rest : List UInt8) (p : Position) :
    ∃ q, readEscape ⟨0x75 :: (digits ++ rest), p⟩ = .ok (c, ⟨rest, q⟩) := by
  obtain ⟨q, hquad⟩ := readHexQuad_codeUnit h rest (p.after 0x75)
  obtain ⟨htrailing, hleading⟩ := not_surrogate c
  refine ⟨q, ?_⟩
  change readCodePoint ⟨digits ++ rest, p.after 0x75⟩ = _
  unfold readCodePoint
  rw [hquad]
  simp [htrailing, hleading]

/-- A character is read from the two codes of its surrogate pair. -/
theorem readEscape_pair {c : Char} {first second : List UInt8} {lead trail : Nat}
    (hfirst : CodeUnit first lead) (hsecond : CodeUnit second trail)
    (hlead : isLeading lead = true) (htrail : isTrailing trail = true)
    (hc : pairValue lead trail = c.toNat) (rest : List UInt8) (p : Position) :
    ∃ q, readEscape ⟨0x75 :: (first ++ 0x5C :: 0x75 :: (second ++ rest)), p⟩ =
      .ok (c, ⟨rest, q⟩) := by
  obtain ⟨q, hquad⟩ :=
    readHexQuad_codeUnit hfirst (0x5C :: 0x75 :: (second ++ rest)) (p.after 0x75)
  obtain ⟨q', hquad'⟩ := readHexQuad_codeUnit hsecond rest ((q.after 0x5C).after 0x75)
  have htrailing : isTrailing lead = false := by
    unfold isLeading at hlead
    unfold isTrailing
    simp at hlead ⊢
    omega
  have hread : readTrailing lead ⟨0x5C :: 0x75 :: (second ++ rest), q⟩ = .ok (c, ⟨rest, q'⟩) := by
    have hslash : (Cursor.mk (0x5C :: 0x75 :: (second ++ rest)) q).head? = some '\\' := rfl
    have hu : (Cursor.mk (0x75 :: (second ++ rest)) (q.after 0x5C)).head? = some 'u' := rfl
    unfold readTrailing
    simp [hslash, hu, hquad', htrail, hc]
  refine ⟨q', ?_⟩
  change readCodePoint ⟨first ++ 0x5C :: 0x75 :: (second ++ rest), p.after 0x75⟩ = _
  unfold readCodePoint
  rw [hquad]
  simp [htrailing, hlead, hread]

/-- A letter after a backslash is read as the character that it stands for. -/
theorem readEscape_letter {b : UInt8} {c : Char} (hu : Char.ofNat b.toNat ≠ 'u')
    (hletter : escaped? (Char.ofNat b.toNat) = some c) (rest : List UInt8) (p : Position) :
    readEscape ⟨b :: rest, p⟩ = .ok (c, ⟨rest, p.after b⟩) := by
  unfold readEscape
  rw [Cursor.head?_cons]
  split
  · contradiction
  · next h => exact absurd (Option.some.inj h) hu
  · next h =>
      obtain rfl := Option.some.inj h
      rw [hletter]
      rfl

/-- A letter that stands for a character in an escape is not the letter u. -/
theorem ne_u_of_escaped {b : UInt8} {c : Char} (h : escaped? (Char.ofNat b.toNat) = some c) :
    Char.ofNat b.toNat ≠ 'u' := by
  intro hu
  rw [hu] at h
  contradiction

/-- An escape and what comes after it are read as the bytes of their characters. -/
theorem readLiteralBytes_escaped {c : Char} {cs : List Char} {letters body rest : List UInt8}
    (hescape : ∀ p, ∃ q, readEscape ⟨letters ++ (body ++ 0x22 :: rest), p⟩ =
      .ok (c, ⟨body ++ 0x22 :: rest, q⟩))
    (hbody : ∀ p, ∃ q, readLiteralBytes ⟨body ++ 0x22 :: rest, p⟩ = .ok (utf8 cs, ⟨rest, q⟩))
    (p : Position) :
    ∃ q, readLiteralBytes ⟨0x5C :: (letters ++ body) ++ 0x22 :: rest, p⟩ =
      .ok (utf8 (c :: cs), ⟨rest, q⟩) := by
  obtain ⟨q, hchar⟩ := readLiteralBytes_escape hescape p
  obtain ⟨q', hmore⟩ := hbody q
  refine ⟨q', ?_⟩
  have hshape : 0x5C :: (letters ++ body) ++ 0x22 :: rest =
      0x5C :: letters ++ (body ++ 0x22 :: rest) := by
    simp
  rw [hshape, hchar, hmore]
  rfl

/-- What stands between the quotes of a literal is read as the bytes of the characters. -/
theorem readLiteralBytes_writes {cs : List Char} {body : List UInt8} (h : Writes cs body)
    (rest : List UInt8) (p : Position) :
    ∃ q, readLiteralBytes ⟨body ++ 0x22 :: rest, p⟩ = .ok (utf8 cs, ⟨rest, q⟩) := by
  induction h generalizing p with
  | nil =>
      refine ⟨p.after 0x22, ?_⟩
      rw [List.nil_append, readLiteralBytes]
      rfl
  | @raw c cs body hc _ ih =>
      obtain ⟨q, hchar⟩ := readLiteralBytes_raw
        (fun b hb => isRaw_of_mem_utf8EncodeChar hc.1 hc.2.1 hc.2.2 hb) (body ++ 0x22 :: rest) p
      obtain ⟨q', hmore⟩ := ih q
      refine ⟨q', ?_⟩
      rw [List.append_assoc, hchar, hmore]
      rfl
  | @letter b c cs body hb _ ih =>
      have hescape : ∀ p, ∃ q, readEscape ⟨[b] ++ (body ++ 0x22 :: rest), p⟩ =
          .ok (c, ⟨body ++ 0x22 :: rest, q⟩) :=
        fun p => ⟨_, readEscape_letter (ne_u_of_escaped hb) hb _ p⟩
      exact readLiteralBytes_escaped hescape ih p
  | @code c cs digits body hdigits _ ih =>
      have hescape : ∀ p, ∃ q, readEscape ⟨0x75 :: digits ++ (body ++ 0x22 :: rest), p⟩ =
          .ok (c, ⟨body ++ 0x22 :: rest, q⟩) :=
        fun p => readEscape_code hdigits _ p
      exact readLiteralBytes_escaped hescape ih p
  | @pair c cs first second body lead trail hfirst hsecond hlead htrail hc _ ih =>
      have hescape : ∀ p, ∃ q, readEscape ⟨(0x75 :: (first ++ 0x5C :: 0x75 :: second)) ++
          (body ++ 0x22 :: rest), p⟩ = .ok (c, ⟨body ++ 0x22 :: rest, q⟩) := by
        intro p
        obtain ⟨q, hpair⟩ :=
          readEscape_pair hfirst hsecond hlead htrail hc (body ++ 0x22 :: rest) p
        exact ⟨q, by simpa using hpair⟩
      obtain ⟨q, hread⟩ := readLiteralBytes_escaped hescape ih p
      exact ⟨q, by simpa using hread⟩

/-- A literal is read as its text, whatever is escaped in it. -/
theorem readLiteral_writes {s : String} {body : List UInt8} (h : Writes s.toList body)
    (rest : List UInt8) (p : Position) :
    ∃ q, readLiteral ⟨body ++ 0x22 :: rest, p⟩ = .ok (s, ⟨rest, q⟩) := by
  obtain ⟨q, hbytes⟩ := readLiteralBytes_writes h rest p
  refine ⟨q, ?_⟩
  unfold readLiteral
  rw [hbytes]
  simp only [Text.fromUTF8?_utf8]

/-- What is escaped stands for what it was. -/
theorem writes_escape (cs : List Char) : Writes cs (utf8 (cs.flatMap escape)) := by
  induction cs with
  | nil => exact .nil
  | cons c more ih =>
      rw [List.flatMap_cons, Text.utf8_append]
      rcases escape_cases c with
        ⟨letter, b, hescape, hbyte, hu, hletter⟩ | ⟨hcontrol, hescape⟩ | ⟨hlow, hquote, hback, hescape⟩
      · have hbytes : utf8 (escape c) = [0x5C, b] := by
          simp [hescape, utf8EncodeChar_backslash, hbyte]
        rw [hbytes]
        exact .letter hletter ih
      · obtain ⟨digits, hbytes, hdigits⟩ := exists_codeUnit hcontrol
        rw [hescape, hbytes]
        exact .code hdigits ih
      · rw [hescape, Text.utf8_cons, Text.utf8_nil, List.append_nil]
        exact .raw ⟨hlow, hquote, hback⟩ ih

/-- What is written between the quotes of a text stands for the text. -/
theorem writes_literalBytes (s : String) : Writes s.toList (literalBytes s) := writes_escape s.toList

/-! ## Whole numbers -/

/-- The bytes of digits. -/
def digitBytes (ds : List Nat) : List UInt8 := ds.map fun d => UInt8.ofNat (48 + d)

/-- The number that digits stand for, after a number that comes before them. -/
def numberFrom (n : Nat) (ds : List Nat) : Nat := ds.foldl (fun n d => n * 10 + d) n

theorem utf8EncodeChar_digitChar : ∀ d < 10, String.utf8EncodeChar (Decimal.digitChar d) =
    [UInt8.ofNat (48 + d)] := by
  decide

theorem digit?_ofNat : ∀ d < 10, digit? (UInt8.ofNat (48 + d)) = some d := by
  decide

/-- The digits of a number; only zero begins with a zero. -/
theorem exists_digits (n : Nat) : ∃ first more, utf8 (Decimal.digits n) = digitBytes (first :: more) ∧
    (∀ d ∈ first :: more, d < 10) ∧ numberFrom 0 (first :: more) = n ∧
    (first = 0 → n = 0 ∧ more = []) := by
  fun_induction Decimal.digits n with
  | case1 n hlt =>
      refine ⟨n, [], ?_, by simpa using hlt, by simp [numberFrom], fun hzero => ⟨hzero, rfl⟩⟩
      simp [utf8EncodeChar_digitChar n hlt, digitBytes]
  | case2 n hge ih =>
      obtain ⟨first, more, hbytes, hdigits, hvalue, hzero⟩ := ih
      have hlast : n % 10 < 10 := Nat.mod_lt n (by decide)
      refine ⟨first, more ++ [n % 10], ?_, ?_, ?_, ?_⟩
      · rw [Text.utf8_append, hbytes]
        simp [utf8EncodeChar_digitChar _ hlast, digitBytes]
      · rw [← List.cons_append, List.forall_mem_append]
        exact ⟨hdigits, by simpa using hlast⟩
      · unfold numberFrom at hvalue ⊢
        rw [← List.cons_append, List.foldl_append, hvalue, List.foldl_cons, List.foldl_nil]
        omega
      · intro hfirst
        obtain ⟨hquotient, -⟩ := hzero hfirst
        omega

theorem le_numberFrom (n : Nat) (ds : List Nat) : n ≤ numberFrom n ds := by
  induction ds generalizing n with
  | nil => exact Nat.le_refl n
  | cons d rest ih =>
      have hrest := ih (n * 10 + d)
      change n ≤ numberFrom (n * 10 + d) rest
      omega

/-- Digits of a number that fits are all taken in. -/
theorem accumulate_eq {n : Nat} {ds : List Nat} (h : numberFrom n ds ≤ maxSignificand) :
    accumulate n ds = (numberFrom n ds, []) := by
  induction ds generalizing n with
  | nil => rfl
  | cons d rest ih =>
      have hfits : n * 10 + d ≤ maxSignificand :=
        Nat.le_trans (le_numberFrom (n * 10 + d) rest) h
      unfold accumulate
      rw [if_pos hfits]
      exact ih h

/-- What follows a number ends its digits. -/
theorem digitRun_of_ends {rest : List UInt8} (hrest : Ends rest) (p : Position) :
    digitRun rest p = ([], ⟨rest, p⟩) := by
  rcases hrest.cases with rfl | ⟨b, more, rfl, hb⟩
  · rfl
  · simp only [List.mem_cons, List.not_mem_nil, or_false] at hb
    rcases hb with rfl | rfl | rfl | rfl | rfl | rfl | rfl <;> rfl

/-- A run of digits is read up to what ends it. -/
theorem digitRun_digitBytes {ds : List Nat} (hds : ∀ d ∈ ds, d < 10) {rest : List UInt8}
    (hrest : Ends rest) (p : Position) :
    ∃ q, digitRun (digitBytes ds ++ rest) p = (ds, ⟨rest, q⟩) := by
  induction ds generalizing p with
  | nil =>
      exact ⟨p, digitRun_of_ends hrest p⟩
  | cons d more ih =>
      rw [List.forall_mem_cons] at hds
      obtain ⟨q, hmore⟩ := ih hds.2 (p.after (UInt8.ofNat (48 + d)))
      refine ⟨q, ?_⟩
      change digitRun (UInt8.ofNat (48 + d) :: (digitBytes more ++ rest)) p = _
      unfold digitRun
      rw [digit?_ofNat d hds.1]
      simp only [hmore]

/-- Digits that fit are read as a whole number. -/
theorem afterDigits_eq {negative : Bool} {ds : List Nat} {rest : List UInt8}
    (hds : numberFrom 0 ds ≤ maxSignificand) (hrest : Ends rest) (p : Position) :
    afterDigits negative ds ⟨rest, p⟩ = wholeNumber negative (numberFrom 0 ds) ⟨rest, p⟩ := by
  unfold afterDigits
  rw [accumulate_eq hds]
  rcases hrest.cases with rfl | ⟨b, more, rfl, hb⟩
  · rfl
  · simp only [List.mem_cons, List.not_mem_nil, or_false] at hb
    rcases hb with rfl | rfl | rfl | rfl | rfl | rfl | rfl <;> rfl

theorem atDigit_digitBytes {d : Nat} (hd : d < 10) (bytes : List UInt8) (p : Position) :
    (Cursor.mk (UInt8.ofNat (48 + d) :: bytes) p).atDigit = true := by
  change (digit? (UInt8.ofNat (48 + d))).isSome = true
  rw [digit?_ofNat d hd]
  rfl

theorem toNat_digitByte {d : Nat} (hd : d < 10) : (UInt8.ofNat (48 + d)).toNat = 48 + d :=
  UInt8.toNat_ofNat_of_lt' (by change 48 + d < 256; omega)

/-- The character that a number begins with. -/
theorem head?_digitBytes_iff {d : Nat} (hd : d < 10) (bytes : List UInt8) (p : Position) (c : Char) :
    (Cursor.mk (UInt8.ofNat (48 + d) :: bytes) p).head? = some c ↔ 48 + d = c.toNat := by
  rw [Cursor.head?_cons, Option.some.injEq, ofNat_toNat_eq_iff, toNat_digitByte hd]

/-- At what ends a number there is no digit. -/
theorem atDigit_of_ends {rest : List UInt8} (hrest : Ends rest) (p : Position) :
    (Cursor.mk rest p).atDigit = false := by
  rcases hrest.cases with rfl | ⟨b, more, rfl, hb⟩
  · rfl
  · simp only [List.mem_cons, List.not_mem_nil, or_false] at hb
    rcases hb with rfl | rfl | rfl | rfl | rfl | rfl | rfl <;> rfl

/-- A number begins with no sign. -/
theorem head?_digits_ne_minus (n : Nat) (rest : List UInt8) (p : Position) :
    (Cursor.mk (utf8 (Decimal.digits n) ++ rest) p).head? ≠ some '-' := by
  obtain ⟨first, more, hbytes, hdigits, -, -⟩ := exists_digits n
  have hfirst : first < 10 := hdigits first List.mem_cons_self
  rw [hbytes]
  refine mt (head?_digitBytes_iff hfirst _ p '-').1 ?_
  change ¬ 48 + first = 45
  omega

/-- What is found at the digits of a number: a single zero, or a run that does not begin with one. -/
theorem digits_cases (n : Nat) {rest : List UInt8} (hrest : Ends rest) (p : Position) :
    let c : Cursor := ⟨utf8 (Decimal.digits n) ++ rest, p⟩
    c.rest.isEmpty = false ∧ c.atDigit = true ∧
      ((n = 0 ∧ c.head? = some '0' ∧ c.next = ⟨rest, p.after 0x30⟩) ∨
        (c.head? ≠ some '0' ∧ ∃ ds q, c.digits = (ds, ⟨rest, q⟩) ∧ numberFrom 0 ds = n)) := by
  intro c
  obtain ⟨first, more, hbytes, hdigits, hvalue, hzero⟩ := exists_digits n
  have hfirst : first < 10 := hdigits first List.mem_cons_self
  have hc : c = ⟨digitBytes (first :: more) ++ rest, p⟩ := by rw [← hbytes]
  have hhead : c.head? = some '0' ↔ first = 0 := by
    rw [hc]
    refine (head?_digitBytes_iff hfirst _ p '0').trans ?_
    change 48 + first = 48 ↔ _
    omega
  refine ⟨by rw [hc]; rfl, by rw [hc]; exact atDigit_digitBytes hfirst _ p, ?_⟩
  by_cases hfirstZero : first = 0
  · obtain ⟨hn, rfl⟩ := hzero hfirstZero
    refine .inl ⟨hn, hhead.2 hfirstZero, ?_⟩
    rw [hc, hfirstZero]
    rfl
  · obtain ⟨q, hrun⟩ := digitRun_digitBytes hdigits hrest p
    refine .inr ⟨mt hhead.1 hfirstZero, first :: more, q, ?_, hvalue⟩
    rw [hc]
    exact hrun

/-- The digits of a number that fits are read as this number. -/
theorem readUnsigned_digits {n : Nat} (hn : n ≤ maxSignificand) (negative : Bool)
    {rest : List UInt8} (hrest : Ends rest) (p : Position) :
    ∃ q, readUnsigned negative ⟨utf8 (Decimal.digits n) ++ rest, p⟩ =
      wholeNumber negative n ⟨rest, q⟩ := by
  obtain ⟨hroom, hdigit, ⟨rfl, hhead, hnext⟩ | ⟨hhead, ds, q, hdigits, rfl⟩⟩ :=
    digits_cases n hrest p
  · have hzero : numberFrom 0 [0] ≤ maxSignificand := hn
    refine ⟨p.after 0x30, ?_⟩
    unfold readUnsigned
    simp only [hroom, hdigit, hhead, hnext, atDigit_of_ends hrest]
    exact afterDigits_eq hzero hrest _
  · refine ⟨q, ?_⟩
    unfold readUnsigned
    simp only [hroom, hdigit, if_neg hhead, hdigits]
    exact afterDigits_eq hn hrest q

/-- The number is an integer of 64 bits, with or without sign. -/
def Fits (n : Int) : Prop := -9223372036854775808 ≤ n ∧ n ≤ 18446744073709551615

theorem bytes_ofNat (n : Nat) : bytes (.integer n) = utf8 (Decimal.digits n) := by
  change utf8 (Decimal.ofNat n).toList = _
  rw [Decimal.ofNat, String.toList_ofList]

theorem bytes_negSucc (n : Nat) :
    bytes (.integer (.negSucc n)) = 0x2D :: utf8 (Decimal.digits (n + 1)) := by
  have hminus : String.utf8EncodeChar '-' = [0x2D] := by decide
  change utf8 ("-" ++ Decimal.ofNat (n + 1)).toList = _
  simp [Decimal.ofNat, hminus]

/-- An integer is read back. -/
theorem readNumber_integer {n : Int} (hn : Fits n) {rest : List UInt8} (hrest : Ends rest)
    (p : Position) :
    ∃ q, readNumber ⟨bytes (.integer n) ++ rest, p⟩ = .ok (.integer n, ⟨rest, q⟩) := by
  obtain ⟨hlow, hhigh⟩ := hn
  cases n with
  | ofNat n =>
      have hmax : n ≤ maxSignificand := by
        change (n : Int) ≤ 18446744073709551615 at hhigh
        unfold maxSignificand
        omega
      obtain ⟨q, hrun⟩ := readUnsigned_digits hmax false hrest p
      refine ⟨q, ?_⟩
      change readNumber ⟨bytes (.integer (n : Int)) ++ rest, p⟩ = _
      unfold readNumber
      rw [bytes_ofNat, if_neg (head?_digits_ne_minus n rest p), hrun]
      rfl
  | negSucc n =>
      have hmax : n + 1 ≤ 9223372036854775808 := by
        have hneg : Int.negSucc n = -(n + 1 : Int) := rfl
        omega
      have hsignificand : n + 1 ≤ maxSignificand := by
        unfold maxSignificand
        omega
      obtain ⟨q, hrun⟩ := readUnsigned_digits hsignificand true hrest (p.after 0x2D)
      refine ⟨q, ?_⟩
      unfold readNumber
      rw [bytes_negSucc]
      change readUnsigned true ⟨utf8 (Decimal.digits (n + 1)) ++ rest, p.after 0x2D⟩ = _
      rw [hrun]
      unfold wholeNumber
      rw [if_neg (by decide), if_pos ⟨Nat.succ_pos n, hmax⟩]
      rfl

/-! ## Values read back -/

/-- The reader takes a text for what it stands for, with blanks before it and whatever follows a
value. -/
structure Reads (read : Reader α) (t : List UInt8) (a : α) : Prop where
  opens : Opens t
  run : ∀ (gap : Gap) rest p, Ends rest →
    ∃ q, read ⟨gap.bytes ++ (t ++ rest), p⟩ = .ok (a, ⟨rest, q⟩)

/-- A value takes room. -/
theorem Opens.length_lt {t : List UInt8} (h : Opens t) (rest : List UInt8) :
    rest.length < (t ++ rest).length := by
  obtain ⟨b, more, rfl, -⟩ := h
  rw [List.length_append]
  simp

/-- The blanks before a value are passed over. -/
theorem Opens.skipBlanks_gap {t : List UInt8} (h : Opens t) (gap : Gap) (rest : List UInt8)
    (p : Position) : ∃ q, (Cursor.mk (gap.bytes ++ (t ++ rest)) p).skipBlanks = ⟨t ++ rest, q⟩ ∧
      (t ++ rest).isEmpty = false := by
  obtain ⟨b, more, rfl, hblank, -⟩ := h
  obtain ⟨q, hskip⟩ := Cursor.skipBlanks_gap gap hblank (more ++ rest) p
  exact ⟨q, hskip, rfl⟩

/-- A reader that begins at the value need only take the value without blanks before it. -/
theorem reads_atValue {read : Reader α} {t : List UInt8} {a : α} (h : Opens t)
    (hrun : ∀ rest p, Ends rest → ∃ q, read ⟨t ++ rest, p⟩ = .ok (a, ⟨rest, q⟩)) :
    Reads (fun c => atValue c read) t a where
  opens := h
  run gap rest p hrest := by
    obtain ⟨q, hskip, hroom⟩ := h.skipBlanks_gap gap rest p
    obtain ⟨q', hread⟩ := hrun rest q hrest
    refine ⟨q', ?_⟩
    unfold atValue
    simp only [hskip, hroom]
    exact hread

namespace Reads

variable {read : Reader α} {t : List UInt8} {a : α}

/-- Without blanks before it. -/
theorem run_here (h : Reads read t a) {rest : List UInt8} (hrest : Ends rest) (p : Position) :
    ∃ q, read ⟨t ++ rest, p⟩ = .ok (a, ⟨rest, q⟩) :=
  h.run {} rest p hrest

/-- What is read of a text can be passed through a function. -/
theorem map (h : Reads read t a) (f : α → β) : Reads (Reader.map f read) t (f a) where
  opens := h.opens
  run gap rest p hrest := by
    obtain ⟨q, hrun⟩ := h.run gap rest p hrest
    refine ⟨q, ?_⟩
    unfold Reader.map
    rw [hrun]

/-- A value that is not `null` is there. -/
theorem optional (h : Reads read t a) (hnull : NotNull t) : Reads (readOptional read) t (some a) where
  opens := h.opens
  run gap rest p hrest := by
    obtain ⟨q, hskip, -⟩ := h.opens.skipBlanks_gap gap rest p
    obtain ⟨q', hrun⟩ := (h.map some).run_here hrest q
    refine ⟨q', ?_⟩
    have hhead : (Cursor.mk (t ++ rest) q).head? ≠ some 'n' := by
      obtain ⟨b, more, rfl, -⟩ := h.opens
      rw [List.cons_append, Cursor.head?_cons, ne_eq, Option.some.injEq, ofNat_toNat_eq_iff]
      intro hn
      obtain rfl : b = 0x6E := UInt8.toNat_inj.1 hn
      exact hnull rfl
    unfold readOptional
    simp only [hskip, if_neg hhead]
    exact hrun

/-- A text is decoded, with blanks around it. -/
theorem decode (h : Reads read t a) (before after : Gap) :
    decode read (.ofBytes (before.bytes ++ (t ++ after.bytes))) = .ok a := by
  obtain ⟨q, hrun⟩ := h.run before after.bytes {} after.ends
  obtain ⟨q', hskip⟩ := Cursor.skipBlanks_gap_end after q
  unfold Json.decode Cursor.ofBytes
  rw [hrun]
  simp only [hskip]
  rfl

end Reads

/-- A string is decoded as its text. -/
theorem decodeString_eq {read : Reader α} {s : String} {t : List UInt8}
    (h : Text.utf8 s.toList = t) : decodeString read s = decode read (.ofBytes t) := by
  unfold decodeString Cursor.ofString
  rw [Text.toList_toUTF8, h]

/-- What is read wherever it stands is read as a whole text. -/
theorem decodeString_of_reads {read : Reader α} {j : Json} {a : α} (h : Reads read (bytes j) a) :
    decodeString read j.render = .ok a := by
  have hdecode := h.decode {} {}
  rw [List.nil_append, List.append_nil] at hdecode
  exact (decodeString_eq rfl).trans hdecode

/-! ## Scalars -/

/-- A number begins with its sign or a digit. -/
theorem exists_bytes_integer (n : Int) : ∃ b more, bytes (.integer n) = b :: more ∧
    (b = 0x2D ∨ ∃ d < 10, b = UInt8.ofNat (48 + d)) := by
  cases n with
  | ofNat n =>
      obtain ⟨first, more, hbytes, hdigits, -⟩ := exists_digits n
      refine ⟨UInt8.ofNat (48 + first), digitBytes more, ?_, .inr ⟨first, ?_, rfl⟩⟩
      · exact (bytes_ofNat n).trans hbytes
      · exact hdigits first List.mem_cons_self
  | negSucc n => exact ⟨0x2D, _, bytes_negSucc n, .inl rfl⟩

theorem isSome_digit?_ofNat : ∀ d < 10, (digit? (UInt8.ofNat (48 + d))).isSome := by
  decide

/-- The digits of a number are the whole part of one. -/
theorem wholeText_digits (n : Nat) : WholeText (utf8 (Decimal.digits n)) := by
  obtain ⟨first, more, hbytes, hdigits, -, hzero⟩ := exists_digits n
  rw [hbytes]
  by_cases hfirst : first = 0
  · obtain ⟨-, rfl⟩ := hzero hfirst
    rw [hfirst]
    exact .zero
  · have hfirstDigit : first < 10 := hdigits first List.mem_cons_self
    refine .digits ?_ ⟨by simp, ?_⟩
    · rw [ne_eq, ← UInt8.toNat_inj, toNat_digitByte hfirstDigit]
      change ¬ 48 + first = 48
      omega
    · intro b hb
      obtain ⟨d, hd, rfl⟩ := List.mem_map.1 (show b ∈ digitBytes (first :: more) from hb)
      exact isSome_digit?_ofNat d (hdigits d hd)

/-- What is written of an integer is a number. -/
theorem numberText_integer (n : Int) : NumberText (bytes (.integer n)) := by
  cases n with
  | ofNat n =>
      have hnumber := NumberText.mk (.inl rfl) (wholeText_digits n) .absent .absent
      rw [List.append_nil, List.append_nil, List.nil_append] at hnumber
      exact (bytes_ofNat n) ▸ hnumber
  | negSucc n =>
      have hnumber := NumberText.mk (.inr rfl) (wholeText_digits (n + 1)) .absent .absent
      rw [List.append_nil, List.append_nil] at hnumber
      exact (bytes_negSucc n) ▸ hnumber

/-- The byte of a digit is no blank, closes no list, and does not start the word null. -/
theorem number_byte : ∀ d < 10, ¬ Cursor.IsBlank (UInt8.ofNat (48 + d)) ∧
    UInt8.ofNat (48 + d) ≠ 0x5D ∧ UInt8.ofNat (48 + d) ≠ 0x6E := by
  decide

/-- An integer can open a value. -/
theorem opens_integer (n : Int) : Opens (bytes (.integer n)) := by
  obtain ⟨b, more, hbytes, rfl | ⟨d, hd, rfl⟩⟩ := exists_bytes_integer n
  · exact ⟨_, more, hbytes, by decide, by decide⟩
  · exact ⟨_, more, hbytes, (number_byte d hd).1, (number_byte d hd).2.1⟩

theorem notNull_integer (n : Int) : NotNull (bytes (.integer n)) := by
  obtain ⟨b, more, hbytes, rfl | ⟨d, hd, rfl⟩⟩ := exists_bytes_integer n
  · simp [NotNull, hbytes]
  · rw [NotNull, hbytes, List.head?_cons, ne_eq, Option.some.injEq]
    exact (number_byte d hd).2.2

/-- The cursor stands at a number. -/
theorem at_integer (n : Int) (rest : List UInt8) (p : Position) :
    (Cursor.mk (bytes (.integer n) ++ rest) p).head? = some '-' ∨
      (Cursor.mk (bytes (.integer n) ++ rest) p).atDigit = true := by
  obtain ⟨b, more, hbytes, rfl | ⟨d, hd, rfl⟩⟩ := exists_bytes_integer n
  · rw [hbytes]
    exact .inl rfl
  · rw [hbytes]
    exact .inr (atDigit_digitBytes hd _ p)

/-- A string can open a value. -/
theorem opens_string (s : String) : Opens (bytes (.string s)) :=
  ⟨0x22, _, bytes_string s, by decide, by decide⟩

theorem notNull_string (s : String) : NotNull (bytes (.string s)) := by
  simp [NotNull, bytes_string]

/-- A string is read from what stands between its quotes. -/
theorem reads_literal (expected : String) {s : String} {body : List UInt8}
    (h : Writes s.toList body) : Reads (readText expected) (0x22 :: (body ++ [0x22])) s := by
  refine reads_atValue ⟨0x22, _, rfl, by decide, by decide⟩ fun rest p _ => ?_
  obtain ⟨q, hrun⟩ := readLiteral_writes h rest (p.after 0x22)
  refine ⟨q, ?_⟩
  rw [List.cons_append, List.append_assoc, Cursor.head?_cons]
  exact hrun

/-- A text is read back from what is written of it, whatever it is expected to be. -/
theorem reads_text (expected s : String) : Reads (readText expected) (bytes (.string s)) s := by
  rw [bytes_string]
  exact reads_literal expected (writes_literalBytes s)

/-- A string is read back from what is written of it. -/
theorem reads_string (s : String) : Reads readString (bytes (.string s)) s :=
  reads_text "a string" s

/-- A variant that is its name alone is read from the name. -/
theorem reads_bareVariant {variants : List (String × Payload α)} {name : String} {a : α}
    (h : variants.lookup name = some (.bare a)) :
    Reads (readVariant variants) (bytes (.string name)) a := by
  refine reads_atValue (opens_string name) fun rest p hrest => ?_
  obtain ⟨q, hrun⟩ := (reads_text "variant identifier" name).run {} rest p hrest
  refine ⟨q, ?_⟩
  have hname : readVariantName variants ⟨bytes (.string name) ++ rest, p⟩ =
      .ok (.bare a, ⟨rest, q⟩) := by
    unfold readVariantName
    rw [List.nil_append] at hrun
    rw [hrun]
    simp only [h]
  rw [hname, bytes_string]
  rfl

/-- An integer within bounds is read back from what is written of it. -/
theorem reads_integer {expected : String} {low high n : Int} (hlow : low ≤ n) (hhigh : n ≤ high)
    (hn : Fits n) : Reads (readInteger expected low high) (bytes (.integer n)) n := by
  refine reads_atValue (opens_integer n) fun rest p hrest => ?_
  obtain ⟨q, hrun⟩ := readNumber_integer hn hrest p
  refine ⟨q, ?_⟩
  rw [if_pos (at_integer n rest p), hrun]
  exact if_pos ⟨hlow, hhigh⟩

/-- A number of 16 bits is read back from what is written of it. -/
theorem reads_uint16 {n : Nat} (hn : n ≤ 65535) :
    Reads readUInt16 (bytes (.integer n)) (UInt16.ofNat n) := by
  have hhigh : (n : Int) ≤ 65535 := by omega
  have hread : Reads (readInteger "u16" 0 65535) (bytes (.integer n)) (n : Int) :=
    reads_integer (Int.natCast_nonneg n) hhigh ⟨by omega, by omega⟩
  exact hread.map fun n => UInt16.ofNat n.toNat

/-- A number of 64 bits is read back from what is written of it. -/
theorem reads_uint64 (n : UInt64) : Reads readUInt64 (bytes (.integer n.toNat)) n := by
  have hlt : n.toNat < 18446744073709551616 := n.toNat_lt
  have hread : Reads (readInteger "u64" 0 18446744073709551615) (bytes (.integer n.toNat))
      (n.toNat : Int) :=
    reads_integer (Int.natCast_nonneg _) (by omega) ⟨by omega, by omega⟩
  have hmap := hread.map fun n => UInt64.ofNat n.toNat
  rwa [Int.toNat_natCast, UInt64.ofNat_toNat] at hmap

/-- A signed number of 32 bits is read back from what is written of it. -/
theorem reads_int32 (n : Int32) : Reads readInt32 (bytes (.integer n.toInt)) n := by
  have hlow : -2147483648 ≤ n.toInt := Int32.le_toInt n
  have hhigh : n.toInt < 2147483648 := Int32.toInt_lt n
  have hread : Reads (readInteger "i32" (-2147483648) 2147483647) (bytes (.integer n.toInt))
      n.toInt :=
    reads_integer hlow (by omega) ⟨by omega, by omega⟩
  have hmap := hread.map Int32.ofInt
  rwa [Int32.ofInt_toInt] at hmap

end Stevedore.Json
