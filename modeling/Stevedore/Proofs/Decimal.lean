import Stevedore.Decimal.Digits
import Mathlib.Logic.Function.Basic
/-!
# Numbers from their texts

The text of a number consists of digits, after a minus sign if the number is negative. So no other
character is in it, and different numbers have different texts.

Main results:

- Theorem `isDigit_digits`: the digits of a number are digits.
- Theorems `ofNat_injective` and `ofInt_injective`: a number can be told from its text.
-/

namespace Stevedore.Decimal

theorem isDigit_digitChar : ∀ d < 10, (digitChar d).isDigit = true := by
  decide

/-- The digits of a number are digits. -/
theorem isDigit_digits (n : Nat) : ∀ c ∈ digits n, c.isDigit = true := by
  fun_induction digits n with
  | case1 n hlt => simpa using isDigit_digitChar n hlt
  | case2 n _ ih =>
      rw [List.forall_mem_append]
      exact ⟨ih, by simpa using isDigit_digitChar _ (Nat.mod_lt n (by decide))⟩

/-- A character that is no digit is not in the text of a number. -/
theorem not_mem_digits {c : Char} (hc : c.isDigit = false) (n : Nat) : c ∉ digits n := by
  intro hmem
  rw [isDigit_digits n c hmem] at hc
  contradiction

/-- A number can be told from its digits. -/
theorem digits_injective : Function.Injective digits :=
  Function.LeftInverse.injective value_digits

/-- A natural number can be told from its text. -/
theorem ofNat_injective : Function.Injective ofNat := by
  intro n m h
  exact digits_injective (String.ofList_inj.1 h)

@[simp]
theorem toList_ofNat (n : Nat) : (ofNat n).toList = digits n := String.toList_ofList

theorem ofInt_natCast (n : Nat) : ofInt n = ofNat n := rfl

/-- The text of a negative integer has a minus sign before the digits. -/
theorem toList_ofInt_negSucc (n : Nat) : (ofInt (.negSucc n)).toList = '-' :: digits (n + 1) := by
  simp [ofInt]

/-- The sign tells a negative number from the others. -/
theorem ofInt_injective : Function.Injective ofInt := by
  have hsign : ∀ n m : Nat, (ofInt n).toList ≠ (ofInt (.negSucc m)).toList := by
    intro n m h
    rw [ofInt_natCast, toList_ofNat, toList_ofInt_negSucc] at h
    have hminus : '-' ∈ digits n := h ▸ List.mem_cons_self
    exact not_mem_digits (by decide) n hminus
  intro n m h
  cases n with
  | ofNat n =>
      cases m with
      | ofNat m => exact congrArg Int.ofNat (ofNat_injective h)
      | negSucc m => exact absurd (congrArg String.toList h) (hsign n m)
  | negSucc n =>
      cases m with
      | ofNat m => exact absurd (congrArg String.toList h.symm) (hsign m n)
      | negSucc m =>
          have hdigits := congrArg String.toList h
          rw [toList_ofInt_negSucc, toList_ofInt_negSucc, List.cons.injEq] at hdigits
          exact congrArg Int.negSucc (Nat.succ.inj (digits_injective hdigits.2))

end Stevedore.Decimal
