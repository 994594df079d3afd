/-!
# Texts cut at a separator

Main definitions:

- `Text.pieces`: the pieces between the separators; there is one more than separators.
- `Text.joined`: pieces with a separator between them.
-/

namespace Stevedore.Text

/-- The pieces of a text between the separators. -/
def pieces (separator : Char) : List Char → List (List Char)
  | [] => [[]]
  | c :: rest =>
    if c = separator then [] :: pieces separator rest
    else
      match pieces separator rest with
      | [] => [[c]]
      | piece :: more => (c :: piece) :: more

/-- The pieces of a text between the separators. -/
def split (separator : Char) (s : String) : List String :=
  (pieces separator s.toList).map String.ofList

/-- Pieces with a separator between them. -/
def joined (separator : Char) : List (List Char) → List Char
  | [] => []
  | [piece] => piece
  | piece :: rest => piece ++ separator :: joined separator rest

/-- Even an empty text has one piece. -/
theorem pieces_ne_nil (separator : Char) (cs : List Char) : pieces separator cs ≠ [] := by
  cases cs with
  | nil => simp [pieces]
  | cons c rest =>
    simp only [pieces]
    split
    · simp
    · split <;> simp

/-- The pieces put together again are the text. -/
theorem joined_pieces (separator : Char) (cs : List Char) :
    joined separator (pieces separator cs) = cs := by
  induction cs with
  | nil => rfl
  | cons c rest ih =>
    simp only [pieces]
    cases h : pieces separator rest with
    | nil => exact absurd h (pieces_ne_nil separator rest)
    | cons piece more =>
      rw [h] at ih
      split
      · next hc => subst hc; simp [joined, ih]
      · cases more with
        | nil => simpa [joined] using ih
        | cons next more => simpa [joined] using ih

/-- A text without separator is its only piece. -/
theorem pieces_of_not_mem {separator : Char} {piece : List Char} (h : separator ∉ piece) :
    pieces separator piece = [piece] := by
  induction piece with
  | nil => rfl
  | cons c rest ih =>
      rw [List.mem_cons, not_or] at h
      rw [pieces, if_neg (Ne.symm h.1), ih h.2]

/-- A piece in front of a separator is the first one. -/
theorem pieces_append {separator : Char} {piece : List Char} (h : separator ∉ piece)
    (cs : List Char) : pieces separator (piece ++ separator :: cs) = piece :: pieces separator cs := by
  induction piece with
  | nil => rw [List.nil_append, pieces, if_pos rfl]
  | cons c rest ih =>
      rw [List.mem_cons, not_or] at h
      rw [List.cons_append, pieces, if_neg (Ne.symm h.1), ih h.2]

/-- Pieces without the separator come apart again as they were put together. -/
theorem pieces_intercalate {separator : Char} {parts : List (List Char)} (hne : parts ≠ [])
    (h : ∀ piece ∈ parts, separator ∉ piece) :
    pieces separator ([separator].intercalate parts) = parts := by
  induction parts with
  | nil => exact absurd rfl hne
  | cons piece rest ih =>
      rw [List.forall_mem_cons] at h
      cases rest with
      | nil =>
          rw [List.intercalate_singleton]
          exact pieces_of_not_mem h.1
      | cons next more =>
          rw [List.intercalate_cons_cons, List.append_assoc, List.singleton_append,
            pieces_append h.1, ih (List.cons_ne_nil next more) h.2]

/-- Texts without the separator are what they are split into again. -/
theorem split_intercalate {separator : Char} {texts : List String} (hne : texts ≠ [])
    (h : ∀ s ∈ texts, separator ∉ s.toList) :
    split separator ((String.singleton separator).intercalate texts) = texts := by
  have hparts : ∀ piece ∈ texts.map String.toList, separator ∉ piece := by
    intro piece hpiece
    obtain ⟨s, hs, rfl⟩ := List.mem_map.1 hpiece
    exact h s hs
  unfold split
  rw [String.toList_intercalate, String.toList_singleton,
    pieces_intercalate (mt List.map_eq_nil_iff.1 hne) hparts, List.map_map]
  simp [Function.comp_def]

/-- What stands before the first separator, and what after it, can be told from a text. -/
theorem append_separator_inj {separator : Char} {as bs cs ds : List Char} (has : separator ∉ as)
    (hbs : separator ∉ bs) (h : as ++ separator :: cs = bs ++ separator :: ds) : as = bs ∧ cs = ds := by
  have hpieces := congrArg (pieces separator) h
  rw [pieces_append has, pieces_append hbs, List.cons.injEq] at hpieces
  obtain ⟨rfl, -⟩ := hpieces
  exact ⟨rfl, (List.cons.inj (List.append_cancel_left h)).2⟩

/-- No piece holds the separator. -/
theorem not_mem_of_mem_pieces {separator : Char} {cs piece : List Char}
    (h : piece ∈ pieces separator cs) : separator ∉ piece := by
  induction cs generalizing piece with
  | nil =>
      rw [List.mem_singleton.1 h]
      exact List.not_mem_nil
  | cons c rest ih =>
      simp only [pieces] at h
      split at h
      · rcases List.mem_cons.1 h with rfl | h
        · exact List.not_mem_nil
        · exact ih h
      · next hc =>
        split at h
        · next heq => exact absurd heq (pieces_ne_nil separator rest)
        · next first more heq =>
          rw [heq, List.forall_mem_cons] at ih
          rcases List.mem_cons.1 h with rfl | h
          · rw [List.mem_cons, not_or]
            exact ⟨Ne.symm hc, ih.1⟩
          · exact ih.2 _ h

end Stevedore.Text
