import Mathlib.Data.List.TakeWhile
import Stevedore.Text.Blank
/-!
# Texts without blanks around them

A text falls into blanks, a part with no blank at either end, and blanks. Removing the blanks leaves
that part, whatever is blank inside it.

Main definition: `Text.Trimmed`.

Main result:

- Theorem `Text.trimChars_eq_iff`: what is left of a text.
-/

namespace Stevedore.Text

/-- No blank stands at either end. -/
def Trimmed (cs : List Char) : Prop :=
  (∀ c ∈ cs.head?, isBlank c = false) ∧ ∀ c ∈ cs.getLast?, isBlank c = false

/-- Without the blanks at its start a text does not start with one. -/
theorem isBlank_of_mem_head?_dropWhile (cs : List Char) :
    ∀ c ∈ (cs.dropWhile isBlank).head?, isBlank c = false := by
  intro c hc
  have hhead := List.head?_dropWhile_not isBlank cs
  rw [Option.mem_def.1 hc] at hhead
  exact hhead

/-- A text that starts with no blank is kept before anything else. -/
theorem dropWhile_append_of_head {cs : List Char} (hne : cs ≠ [])
    (hhead : ∀ c ∈ cs.head?, isBlank c = false) (rest : List Char) :
    (cs ++ rest).dropWhile isBlank = cs ++ rest := by
  obtain ⟨first, more, rfl⟩ := List.exists_cons_of_ne_nil hne
  exact List.dropWhile_cons_of_neg (by simp [hhead first rfl])

/-- Without the blanks in front, a text is what is left of it and the blanks behind. -/
theorem trimChars_append (cs : List Char) :
    trimChars cs ++ ((cs.dropWhile isBlank).reverse.takeWhile isBlank).reverse =
      cs.dropWhile isBlank := by
  unfold trimChars
  rw [← List.reverse_append, List.takeWhile_append_dropWhile, List.reverse_reverse]

/-- A text without the blanks at its ends has none there. -/
theorem trimmed_trimChars (cs : List Char) : Trimmed (trimChars cs) := by
  constructor
  · intro c hc
    refine isBlank_of_mem_head?_dropWhile cs c ?_
    rw [← trimChars_append cs, List.head?_append, Option.mem_def.1 hc]
    rfl
  · unfold trimChars
    rw [List.getLast?_reverse]
    exact isBlank_of_mem_head?_dropWhile _

/-- Blanks around a text that has none at its ends are removed, and nothing else. -/
theorem trimChars_of_trimmed {before cs after : List Char} (h : Trimmed cs)
    (hbefore : ∀ c ∈ before, isBlank c = true) (hafter : ∀ c ∈ after, isBlank c = true) :
    trimChars (before ++ cs ++ after) = cs := by
  have hafter' : ∀ c ∈ after.reverse, isBlank c = true := by simpa using hafter
  unfold trimChars
  rw [List.append_assoc, List.dropWhile_append_of_pos hbefore]
  by_cases hnil : cs = []
  · rw [hnil, List.nil_append, List.dropWhile_eq_nil_iff.2 hafter]
    rfl
  · have hlast : ∀ c ∈ cs.reverse.head?, isBlank c = false := by
      rw [List.head?_reverse]
      exact h.2
    have hdrop := dropWhile_append_of_head (mt List.reverse_eq_nil_iff.1 hnil) hlast []
    rw [List.append_nil] at hdrop
    rw [dropWhile_append_of_head hnil h.1, List.reverse_append,
      List.dropWhile_append_of_pos hafter', hdrop, List.reverse_reverse]

/-- What is left of a text has no blank at either end, and only blanks stood around it. -/
theorem trimChars_eq_iff (cs rest : List Char) :
    trimChars cs = rest ↔ Trimmed rest ∧ ∃ before after, cs = before ++ rest ++ after ∧
      (∀ c ∈ before, isBlank c = true) ∧ ∀ c ∈ after, isBlank c = true := by
  constructor
  · rintro rfl
    refine ⟨trimmed_trimChars cs, cs.takeWhile isBlank,
      ((cs.dropWhile isBlank).reverse.takeWhile isBlank).reverse, ?_, ?_, ?_⟩
    · rw [List.append_assoc, trimChars_append, List.takeWhile_append_dropWhile]
    · intro c hc
      exact List.mem_takeWhile_imp hc
    · intro c hc
      exact List.mem_takeWhile_imp (List.mem_reverse.1 hc)
  · rintro ⟨htrimmed, before, after, rfl, hbefore, hafter⟩
    exact trimChars_of_trimmed htrimmed hbefore hafter

end Stevedore.Text
