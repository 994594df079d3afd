import Stevedore.Json.Tree
/-!
# The bytes of a text

Texts are read as bytes. A character that is written into a text is encoded, and a text that is read is
looked at byte by byte.

Main definitions:

- `Text.utf8`: the bytes of characters.
- `Json.bytes`: the bytes of the compact text of a value.
- `Json.Opens`: how the text of a value begins.

Main results:

- Theorem `Text.fromUTF8?_utf8`: bytes of characters are read back as their text.
- Theorem `bytes_string`: a string between its quotes.
-/

namespace Stevedore

/-! ## Bytes of characters -/

/-- The loop over the bytes of a text adds those that are left. -/
theorem toList_loop_eq (bytes : ByteArray) (i : Nat) (collected : List UInt8) :
    ByteArray.toList.loop bytes i collected = collected.reverse ++ bytes.data.toList.drop i := by
  fun_induction ByteArray.toList.loop bytes i collected with
  | case1 i collected hlt ih =>
      have hsize : i < bytes.data.toList.length := hlt
      have hget : bytes.get! i = bytes.data.toList[i] := by
        change bytes.data[i]! = _
        rw [getElem!_pos bytes.data i hlt, Array.getElem_toList]
      rw [ih, List.drop_eq_getElem_cons hsize, hget]
      simp
  | case2 i collected hge =>
      have hsize : bytes.data.toList.length ≤ i := Nat.le_of_not_lt hge
      rw [List.drop_eq_nil_of_le hsize, List.append_nil]

/-- The bytes of a text are those that it is made of. -/
theorem toList_eq_toList_data (bytes : ByteArray) : bytes.toList = bytes.data.toList := by
  unfold ByteArray.toList
  rw [toList_loop_eq]
  rfl

namespace Text

/-- The bytes of characters. -/
def utf8 (cs : List Char) : List UInt8 := cs.flatMap String.utf8EncodeChar

@[simp] theorem utf8_nil : utf8 [] = [] := rfl

@[simp] theorem utf8_cons (c : Char) (rest : List Char) :
    utf8 (c :: rest) = String.utf8EncodeChar c ++ utf8 rest := rfl

@[simp] theorem utf8_append (cs ds : List Char) : utf8 (cs ++ ds) = utf8 cs ++ utf8 ds :=
  List.flatMap_append

/-- The bytes of a text by its characters. -/
theorem toList_toUTF8 (s : String) : s.toUTF8.toList = utf8 s.toList := by
  rw [toList_eq_toList_data, String.toUTF8_eq_toByteArray, ← String.utf8Encode_toList]
  exact List.toList_data_toByteArray

/-- Bytes of characters are read back as their text. -/
theorem fromUTF8?_utf8 (s : String) : String.fromUTF8? (utf8 s.toList).toByteArray = some s := by
  have hbytes : (utf8 s.toList).toByteArray = s.toByteArray := String.utf8Encode_toList
  unfold String.fromUTF8?
  rw [hbytes, dif_pos s.isValidUTF8]
  rfl

end Text

namespace Json

open Text (utf8)

/-! ## The text of a value -/

/-- The bytes of the compact text of a value. -/
def bytes (j : Json) : List UInt8 := utf8 j.render.toList

/-- The bytes that stand for a text inside its literal. -/
def literalBytes (s : String) : List UInt8 := utf8 (s.toList.flatMap escape)

/-- A quoted text has its literal between two quotes. -/
theorem utf8_toList_quote (s : String) :
    utf8 (quote s).toList = 0x22 :: (literalBytes s ++ [0x22]) := by
  have hquote : String.utf8EncodeChar '"' = [0x22] := by decide
  simp [quote, quoteChars, literalBytes, hquote]

theorem bytes_null : bytes .null = [0x6E, 0x75, 0x6C, 0x6C] := by decide

theorem bytes_true : bytes (.boolean true) = [0x74, 0x72, 0x75, 0x65] := by decide

theorem bytes_false : bytes (.boolean false) = [0x66, 0x61, 0x6C, 0x73, 0x65] := by decide

/-- A string is written as a literal between two quotes. -/
theorem bytes_string (s : String) : bytes (.string s) = 0x22 :: (literalBytes s ++ [0x22]) := by
  unfold bytes render
  exact utf8_toList_quote s

/-! ## Cursors -/

/-- A byte stands for a character exactly if it is its code. -/
theorem ofNat_toNat_eq_iff (b : UInt8) (c : Char) : Char.ofNat b.toNat = c ↔ b.toNat = c.toNat := by
  have hvalid : b.toNat.isValidChar := by
    have hlt : b.toNat < 256 := b.toNat_lt
    left
    omega
  have htoNat : (Char.ofNat b.toNat).toNat = b.toNat := by
    unfold Char.ofNat
    rw [dif_pos hvalid]
    rfl
  rw [← Char.toNat_inj, htoNat]

theorem toNat_ofNat_toNat (b : UInt8) : (Char.ofNat b.toNat).toNat = b.toNat :=
  ((ofNat_toNat_eq_iff b _).1 rfl).symm

namespace Cursor

variable (b : UInt8) (rest : List UInt8) (p : Position)

@[simp] theorem next_cons : (Cursor.mk (b :: rest) p).next = ⟨rest, p.after b⟩ := rfl

@[simp] theorem head?_cons :
    (Cursor.mk (b :: rest) p).head? = some (Char.ofNat b.toNat) := rfl

/-- The byte is a blank, a tab or a line end. -/
def IsBlank (b : UInt8) : Prop := b = 0x20 ∨ b = 0x09 ∨ b = 0x0A ∨ b = 0x0D

instance (b : UInt8) : Decidable (IsBlank b) := inferInstanceAs (Decidable (_ ∨ _))

/-- Where no blank stands none is passed over. -/
theorem skipBlanks_cons {b : UInt8} (h : ¬ IsBlank b) :
    (Cursor.mk (b :: rest) p).skipBlanks = ⟨b :: rest, p⟩ := by
  unfold skipBlanks skipBlanks.go
  exact if_neg h

end Cursor

/-! ## How a text begins -/

/-- The text begins with a byte that is neither blank nor the end of a list. -/
def Opens (t : List UInt8) : Prop :=
  ∃ b more, t = b :: more ∧ ¬ Cursor.IsBlank b ∧ b ≠ 0x5D

/-- The text does not begin like `null`. -/
def NotNull (t : List UInt8) : Prop := t.head? ≠ some 0x6E

end Json

end Stevedore
