import Stevedore.Name
/-!
# The shape of network names

What the sanitizer returns has the shape of a network name, and it leaves names of that shape as they
are. So sanitizing a second time changes nothing.

Main results:

- Theorem `isNetworkName_sanitize`: the result has the shape.
- Theorem `sanitize_of_isNetworkName`: names of the shape are left alone.
- Theorem `sanitize_sanitize`: the sanitizer is idempotent.
-/

namespace Stevedore.Name

/-! ## Characters -/

theorem isUpper_iff (c : Char) : c.isUpper ↔ 65 ≤ c.toNat ∧ c.toNat ≤ 90 := by
  have hupper : c.isUpper = decide (65 ≤ c.val ∧ c.val ≤ 90) := rfl
  rw [hupper]
  simp [UInt32.le_iff_toNat_le]

theorem isLower_iff (c : Char) : c.isLower ↔ 97 ≤ c.toNat ∧ c.toNat ≤ 122 := by
  have hlower : c.isLower = (decide (97 ≤ c.val) && decide (c.val ≤ 122)) := rfl
  rw [hlower]
  simp [UInt32.le_iff_toNat_le]

theorem isDigit_iff (c : Char) : c.isDigit ↔ 48 ≤ c.toNat ∧ c.toNat ≤ 57 := by
  have hdigit : c.isDigit = (decide (48 ≤ c.val) && decide (c.val ≤ 57)) := rfl
  rw [hdigit]
  simp [UInt32.le_iff_toNat_le]

/-- The characters that a network name keeps, by their codes. -/
theorem isKept_iff (c : Char) : isKept c ↔
    (65 ≤ c.toNat ∧ c.toNat ≤ 90) ∨ (97 ≤ c.toNat ∧ c.toNat ≤ 122) ∨
      (48 ≤ c.toNat ∧ c.toNat ≤ 57) := by
  have hkept : isKept c = (c.isUpper || c.isLower || c.isDigit) := rfl
  rw [hkept, Bool.or_eq_true, Bool.or_eq_true, isUpper_iff, isLower_iff, isDigit_iff, or_assoc]

theorem eq_hyphen_iff (c : Char) : c = '-' ↔ c.toNat = 45 := by
  rw [← Char.toNat_inj]
  rfl

/-- The characters of a network name, by their codes. -/
theorem isNetworkChar_iff (c : Char) : isNetworkChar c ↔
    (97 ≤ c.toNat ∧ c.toNat ≤ 122) ∨ (48 ≤ c.toNat ∧ c.toNat ≤ 57) ∨ c = '-' := by
  have hnetwork : isNetworkChar c = (c.isLower || c.isDigit || c == '-') := rfl
  rw [hnetwork, Bool.or_eq_true, Bool.or_eq_true, isLower_iff, isDigit_iff, beq_iff_eq, or_assoc]

/-- Only the codes of capital letters change in lower case. -/
theorem toNat_toLower (c : Char) :
    c.toLower.toNat = if 65 ≤ c.toNat ∧ c.toNat ≤ 90 then c.toNat + 32 else c.toNat := by
  have hupper : (c.val ≥ 'A'.val ∧ c.val ≤ 'Z'.val) ↔ 65 ≤ c.toNat ∧ c.toNat ≤ 90 := by
    simp [UInt32.le_iff_toNat_le]
  unfold Char.toLower
  split
  · next h =>
      have hrange := hupper.1 h
      rw [if_pos hrange, Char.toNat, UInt32.toNat_add]
      change (c.toNat + 32) % 4294967296 = c.toNat + 32
      omega
  · next h => rw [if_neg (fun hrange => h (hupper.2 hrange))]

/-- In lower case a letter or digit is a character of network names, and no hyphen. -/
theorem isNetworkChar_toLower {c : Char} (h : isKept c) :
    isNetworkChar c.toLower ∧ c.toLower ≠ '-' := by
  rw [isKept_iff] at h
  rw [isNetworkChar_iff, ne_eq, eq_hyphen_iff, toNat_toLower]
  split <;> omega

/-- The characters of network names are in lower case. -/
theorem toLower_of_isNetworkChar {c : Char} (h : isNetworkChar c) : c.toLower = c := by
  rw [isNetworkChar_iff, eq_hyphen_iff] at h
  rw [← Char.toNat_inj, toNat_toLower, if_neg (by omega)]

/-- A character of a network name that is no hyphen is kept. -/
theorem isKept_of_isNetworkChar {c : Char} (h : isNetworkChar c) (hc : c ≠ '-') : isKept c := by
  rw [isNetworkChar_iff] at h
  rw [isKept_iff]
  simp only [hc, or_false] at h
  exact .inr h

/-! ## Runs -/

/-- A list may follow a run: it does not begin with a hyphen. -/
def MayFollow (inRun : Bool) (chars : List Char) : Prop := inRun → chars.head? ≠ some '-'

/-- There are no two hyphens in a row if there are none at the start and none after it. -/
theorem noDoubleHyphen_cons_iff (c : Char) (rest : List Char) :
    noDoubleHyphen (c :: rest) ↔ MayFollow (c == '-') rest ∧ noDoubleHyphen rest := by
  unfold MayFollow
  by_cases hc : c = '-'
  · subst hc
    cases rest with
    | nil => simp [noDoubleHyphen]
    | cons d more =>
        by_cases hd : d = '-'
        · simp [hd, noDoubleHyphen]
        · simp [hd, noDoubleHyphen]
  · simp [hc, noDoubleHyphen]

/-- What is collapsed consists of characters of network names. -/
theorem all_isNetworkChar_collapse (inRun : Bool) (chars : List Char) :
    (collapse inRun chars).all isNetworkChar := by
  induction chars generalizing inRun with
  | nil => rfl
  | cons c rest ih =>
      unfold collapse
      by_cases hc : isKept c
      · simp [hc, ih, (isNetworkChar_toLower hc).1]
      · have hhyphen : isNetworkChar '-' := by decide
        cases inRun <;> simp [hc, ih, hhyphen]

/-- Runs become single hyphens, none after a run. -/
theorem noDoubleHyphen_collapse (inRun : Bool) (chars : List Char) :
    MayFollow inRun (collapse inRun chars) ∧ noDoubleHyphen (collapse inRun chars) := by
  induction chars generalizing inRun with
  | nil => simp [collapse, MayFollow, noDoubleHyphen]
  | cons c rest ih =>
      unfold collapse
      by_cases hc : isKept c
      · have hne := (isNetworkChar_toLower hc).2
        rw [if_pos hc, noDoubleHyphen_cons_iff]
        refine ⟨?_, ?_, (ih false).2⟩
        · simpa [MayFollow] using fun _ => hne
        · simp [MayFollow, hne]
      · rw [if_neg hc]
        cases inRun with
        | true => simpa using ih true
        | false =>
            rw [if_neg (by simp), noDoubleHyphen_cons_iff]
            exact ⟨by simp [MayFollow], ih true⟩

/-- Characters of the right shape are left alone. -/
theorem collapse_eq_self {inRun : Bool} {chars : List Char} (hchars : chars.all isNetworkChar)
    (hruns : noDoubleHyphen chars) (hfirst : MayFollow inRun chars) :
    collapse inRun chars = chars := by
  induction chars generalizing inRun with
  | nil => rfl
  | cons c rest ih =>
      rw [List.all_cons, Bool.and_eq_true] at hchars
      rw [noDoubleHyphen_cons_iff] at hruns
      unfold collapse
      by_cases hc : c = '-'
      · subst hc
        cases inRun with
        | true => exact absurd rfl (hfirst rfl)
        | false =>
            have hrest : collapse true rest = rest := ih hchars.2 hruns.2 hruns.1
            rw [if_neg (by decide), if_neg (by simp), hrest]
      · have hkept := isKept_of_isNetworkChar hchars.1 hc
        have hrest : MayFollow false rest := by simp [MayFollow]
        rw [if_pos hkept, toLower_of_isNetworkChar hchars.1, ih hchars.2 hruns.2 hrest]

/-! ## Names -/

/-- The sanitizer returns network names. -/
theorem isNetworkName_sanitize (name : String) : IsNetworkName (sanitize name) := by
  unfold IsNetworkName
  rw [toList_sanitize]
  exact ⟨all_isNetworkChar_collapse false _, (noDoubleHyphen_collapse false _).2⟩

/-- Network names are left alone. -/
theorem sanitize_of_isNetworkName {name : String} (h : IsNetworkName name) :
    sanitize name = name := by
  unfold sanitize
  rw [collapse_eq_self h.1 h.2 (by simp [MayFollow]), String.ofList_toList]

/-- A network name is its own network name. -/
@[simp] theorem sanitize_sanitize (name : String) : sanitize (sanitize name) = sanitize name :=
  sanitize_of_isNetworkName (isNetworkName_sanitize name)

end Stevedore.Name
