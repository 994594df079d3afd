import Stevedore.Proofs.Json.Text
import Stevedore.Proofs.Name
import Stevedore.Text.Percent
/-!
# Percent-encoded texts

Decoding a text makes it no longer, and leaves it alone where it holds no percent sign. The value of a
query is read as the text that it was made from.

Main definition:

- `Text.formDecode`: the bytes that the value of a query stands for.

Main results:

- Theorem `length_percentDecode_le`: a decoded text has at most as many bytes.
- Theorem `percentDecode_utf8`: a text without percent sign stands for itself.
- Theorem `formDecode_formEncode`: the value of a query is decoded to the text it stands for.
-/

namespace Stevedore.Text

/-! ## Bytes of characters -/

/-- A byte below 128 is the whole of its character. -/
theorem toNat_of_mem_utf8EncodeChar {c : Char} {b : UInt8} (hb : b ∈ String.utf8EncodeChar c)
    (hlow : b.toNat < 128) : b.toNat = c.toNat := by
  have hvalue : c.val.toNat = c.toNat := rfl
  have hbyte : ∀ n < 256, (UInt8.ofNat n).toNat = n := fun n hn => UInt8.toNat_ofNat_of_lt' hn
  unfold String.utf8EncodeChar at hb
  simp only [hvalue] at hb
  split at hb
  · rw [List.mem_singleton.1 hb]
    exact hbyte _ (by omega)
  · exfalso
    split at hb
    · simp only [List.mem_cons, List.not_mem_nil, or_false] at hb
      rcases hb with rfl | rfl <;> rw [hbyte _ (by omega)] at hlow <;> omega
    · split at hb
      · simp only [List.mem_cons, List.not_mem_nil, or_false] at hb
        rcases hb with rfl | rfl | rfl <;> rw [hbyte _ (by omega)] at hlow <;> omega
      · simp only [List.mem_cons, List.not_mem_nil, or_false] at hb
        rcases hb with rfl | rfl | rfl | rfl <;> rw [hbyte _ (by omega)] at hlow <;> omega

/-! ## Decoding -/

/-- A decoded text has at most as many bytes. -/
theorem length_percentDecode_le (bytes : List UInt8) :
    (percentDecode bytes).length ≤ bytes.length := by
  fun_induction percentDecode bytes with
  | case1 a b rest high low hhigh hlow ih =>
      simp only [List.length_cons]
      omega
  | case2 a b rest hdigits ih =>
      simp only [List.length_cons] at ih ⊢
      omega
  | case3 b rest hnot ih =>
      simp only [List.length_cons]
      omega
  | case4 => exact Nat.le_refl _

/-- Without a percent sign nothing is decoded. -/
theorem percentDecode_of_not_mem {bytes : List UInt8} (h : 0x25 ∉ bytes) :
    percentDecode bytes = bytes := by
  fun_induction percentDecode bytes with
  | case1 a b rest => simp at h
  | case2 a b rest => simp at h
  | case3 b rest hnot ih =>
      rw [List.mem_cons, not_or] at h
      rw [ih h.2]
  | case4 => rfl

/-- A text without percent sign stands for itself. -/
theorem percentDecode_utf8 {cs : List Char} (h : '%' ∉ cs) : percentDecode (utf8 cs) = utf8 cs := by
  refine percentDecode_of_not_mem fun hmem => ?_
  obtain ⟨c, hc, hb⟩ := List.mem_flatMap.1 hmem
  have hpercent : (0x25 : UInt8).toNat = c.toNat := toNat_of_mem_utf8EncodeChar hb (by decide)
  have hchar : c = '%' := Char.toNat_inj.1 hpercent.symm
  exact h (hchar ▸ hc)

/-! ## Values of queries -/

/-- A plus sign in the value of a query is a blank. -/
def plusToBlank (b : UInt8) : UInt8 := if b = 0x2B then 0x20 else b

/-- The bytes that the value of a query stands for. -/
def formDecode (cs : List Char) : List UInt8 := percentDecode ((utf8 cs).map plusToBlank)

theorem toNat_ofNat_byte (b : UInt8) : (Char.ofNat b.toNat).toNat = b.toNat := by
  have hb := b.toNat_lt
  have hvalid : b.toNat.isValidChar := .inl (by omega)
  rw [Char.ofNat, dif_pos hvalid]
  rfl

/-- A byte below 128 is all that its character is encoded as. -/
theorem utf8EncodeChar_ofNat {b : UInt8} (h : b.toNat < 128) :
    String.utf8EncodeChar (Char.ofNat b.toNat) = [b] := by
  have hvalue : (Char.ofNat b.toNat).val.toNat = b.toNat := toNat_ofNat_byte b
  unfold String.utf8EncodeChar
  simp only [hvalue]
  rw [if_pos (by omega), UInt8.ofNat_toNat]

/-- A byte that is no percent sign stands for itself. -/
theorem percentDecode_cons {b : UInt8} (h : b ≠ 0x25) (rest : List UInt8) :
    percentDecode (b :: rest) = b :: percentDecode rest := by
  rw [percentDecode]
  intro _ _ _ hb
  exact absurd hb h

/-- The byte of an upper-case hexadecimal digit is read as the digit. -/
theorem hexDigit?_upperHexDigit : ∀ n < 16,
    String.utf8EncodeChar (upperHexDigit n) = [UInt8.ofNat (upperHexDigit n).toNat] ∧
      plusToBlank (UInt8.ofNat (upperHexDigit n).toNat) = UInt8.ofNat (upperHexDigit n).toNat ∧
      hexDigit? (UInt8.ofNat (upperHexDigit n).toNat) = some (UInt8.ofNat n) := by
  decide

/-- A byte is made of its two hexadecimal digits. -/
theorem ofNat_div_mul_add_mod (b : UInt8) :
    UInt8.ofNat (b.toNat / 16) * 16 + UInt8.ofNat (b.toNat % 16) = b := by
  have hb := b.toNat_lt
  apply UInt8.toNat_inj.1
  rw [UInt8.toNat_add, UInt8.toNat_mul, UInt8.toNat_ofNat', UInt8.toNat_ofNat']
  have h16 : (16 : UInt8).toNat = 16 := rfl
  rw [h16]
  omega

/-- A byte that stands for itself is neither the plus sign nor the percent sign. -/
theorem lt_of_isUnreserved {b : UInt8} (h : isUnreserved b) :
    b.toNat < 128 ∧ b ≠ 0x2B ∧ b ≠ 0x25 := by
  unfold isUnreserved at h
  simp only [Bool.or_eq_true, beq_iff_eq, ← Char.toNat_inj, toNat_ofNat_byte] at h
  have hrange : b.toNat < 128 ∧ b.toNat ≠ 0x2B ∧ b.toNat ≠ 0x25 := by
    rcases h with (((h | h) | h) | h) | h
    · have hkept := (Name.isKept_iff _).1 h
      rw [toNat_ofNat_byte] at hkept
      omega
    all_goals
      rw [h]
      decide
  refine ⟨hrange.1, ?_, ?_⟩
  · rintro rfl
    exact hrange.2.1 rfl
  · rintro rfl
    exact hrange.2.2 rfl

/-- What stands for a byte is decoded to it. -/
theorem percentDecode_formEncodeByte (b : UInt8) (rest : List UInt8) :
    percentDecode ((utf8 (formEncodeByte b)).map plusToBlank ++ rest) = b :: percentDecode rest := by
  unfold formEncodeByte
  split
  · next hblank =>
    rw [hblank]
    exact percentDecode_cons (by decide) rest
  · split
    · next hunreserved =>
      obtain ⟨hlow, hplus, hpercent⟩ := lt_of_isUnreserved hunreserved
      have hutf8 : utf8 [Char.ofNat b.toNat] = [b] := by
        rw [utf8_cons, utf8EncodeChar_ofNat hlow, utf8_nil, List.append_nil]
      rw [hutf8, List.map_singleton, plusToBlank, if_neg hplus]
      exact percentDecode_cons hpercent rest
    · have hb := b.toNat_lt
      obtain ⟨hhigh, hhigh', hhighDigit⟩ := hexDigit?_upperHexDigit (b.toNat / 16) (by omega)
      obtain ⟨hlow, hlow', hlowDigit⟩ := hexDigit?_upperHexDigit (b.toNat % 16) (by omega)
      have hpercent : String.utf8EncodeChar '%' = [0x25] := by decide
      have hkept : plusToBlank 0x25 = 0x25 := rfl
      simp only [utf8_cons, utf8_nil, hhigh, hlow, hpercent, List.cons_append, List.nil_append,
        List.map_cons, List.map_nil, hkept, hhigh', hlow', percentDecode, hhighDigit, hlowDigit,
        ofNat_div_mul_add_mod]

/-- A text is decoded from the value of a query that stands for it. -/
theorem formDecode_formEncode (s : String) : formDecode (formEncode s).toList = utf8 s.toList := by
  have hbytes : ∀ bytes : List UInt8,
      percentDecode ((utf8 (bytes.flatMap formEncodeByte)).map plusToBlank) = bytes := by
    intro bytes
    induction bytes with
    | nil => rfl
    | cons b rest ih =>
        rw [List.flatMap_cons, utf8_append, List.map_append, percentDecode_formEncodeByte, ih]
  unfold formDecode formEncode
  rw [String.toList_ofList, hbytes, toList_toUTF8]

/-- The characters of which the values of queries are made. -/
theorem isFormChar_of_mem_formEncode {s : String} {c : Char} (h : c ∈ (formEncode s).toList) :
    c.isAlphanum || ['*', '-', '.', '_', '+', '%'].contains c := by
  unfold formEncode at h
  rw [String.toList_ofList, List.mem_flatMap] at h
  obtain ⟨b, -, hc⟩ := h
  have hdigit : ∀ n < 16, (upperHexDigit n).isAlphanum := by decide
  unfold formEncodeByte at hc
  split at hc
  · rw [List.mem_singleton.1 hc]
    decide
  · split at hc
    · next hunreserved =>
      rw [List.mem_singleton.1 hc]
      unfold isUnreserved at hunreserved
      generalize Char.ofNat b.toNat = c at hunreserved ⊢
      simp only [Bool.or_eq_true, beq_iff_eq] at hunreserved
      rcases hunreserved with (((h | rfl) | rfl) | rfl) | rfl
      · rw [h, Bool.true_or]
      all_goals decide
    · have hb := b.toNat_lt
      simp only [List.mem_cons, List.not_mem_nil, or_false] at hc
      rcases hc with rfl | rfl | rfl
      · decide
      · rw [hdigit _ (by omega), Bool.true_or]
      · rw [hdigit _ (by omega), Bool.true_or]

end Stevedore.Text
