/-!
# Labels and selectors

Labels are a finite map from keys to values, kept in the order of the keys. A selector asks for some
labels with given values.

Main definitions:

- `Labels`: with `Labels.get?` and `Labels.insert`.
- `Selector`: with `Selector.selects` and its text `Selector.text`.
-/

namespace Stevedore

/-- The entries of a map in the order of their keys, each key once. -/
def Ascending (entries : List (String × String)) : Prop :=
  entries.Pairwise fun a b => a.1 < b.1

instance (entries : List (String × String)) : Decidable (Ascending entries) :=
  inferInstanceAs (Decidable (List.Pairwise _ _))

/-- A finite map from keys to values. -/
structure Labels where
  entries : List (String × String) := []
  ascending : Ascending entries := by simp [Ascending]
deriving DecidableEq, Repr

/-- Enters a value under a key into entries, in place of the one that is there. -/
def insertEntry (key value : String) : List (String × String) → List (String × String)
  | [] => [(key, value)]
  | (k, v) :: rest =>
    if key < k then (key, value) :: (k, v) :: rest
    else if key = k then (key, value) :: rest
    else (k, v) :: insertEntry key value rest

/-- What is among the entries afterwards was there before or is the new entry. -/
theorem mem_insertEntry {key value : String} {e : String × String}
    {entries : List (String × String)} (h : e ∈ insertEntry key value entries) : e = (key, value) ∨ e ∈ entries := by
  induction entries with
  | nil => simpa [insertEntry] using h
  | cons x rest ih =>
    obtain ⟨k, v⟩ := x
    simp only [insertEntry] at h
    split at h
    · simpa using h
    · split at h
      · rcases List.mem_cons.1 h with h | h
        · exact .inl h
        · exact .inr (List.mem_cons_of_mem _ h)
      · rcases List.mem_cons.1 h with h | h
        · exact .inr (h ▸ List.mem_cons_self)
        · exact (ih h).imp_right (List.mem_cons_of_mem _)

/-- Entries stay in the order of their keys. -/
theorem Ascending.insertEntry {entries : List (String × String)} (h : Ascending entries)
    (key value : String) : Ascending (insertEntry key value entries) := by
  induction entries with
  | nil => simp [Ascending, Stevedore.insertEntry]
  | cons x rest ih =>
    obtain ⟨k, v⟩ := x
    have hrest := List.pairwise_cons.1 h
    simp only [Stevedore.insertEntry]
    split
    · rename_i hlt
      refine List.pairwise_cons.2 ⟨?_, h⟩
      intro e he
      rcases List.mem_cons.1 he with rfl | he
      · exact hlt
      · exact String.lt_trans hlt (hrest.1 e he)
    · split
      · rename_i heq
        subst heq
        exact List.pairwise_cons.2 ⟨hrest.1, hrest.2⟩
      · rename_i hle hne
        refine List.pairwise_cons.2 ⟨?_, ih hrest.2⟩
        intro e he
        rcases mem_insertEntry he with rfl | he
        · have : k ≤ key := String.not_lt.1 hle
          exact Std.lt_of_le_of_ne this (Ne.symm hne)
        · exact hrest.1 e he

namespace Labels

/-- The map without entries. -/
def empty : Labels := {}

/-- Enters a value under a key. -/
def insert (l : Labels) (key value : String) : Labels where
  entries := insertEntry key value l.entries
  ascending := l.ascending.insertEntry key value

/-- The map of some entries; the last one counts where a key is repeated. -/
def ofList (entries : List (String × String)) : Labels :=
  entries.foldl (fun l e => l.insert e.1 e.2) empty

/-- The map of one entry. -/
def single (key value : String) : Labels := empty.insert key value

/-- The value under a key. -/
def get? (l : Labels) (key : String) : Option String := l.entries.lookup key

end Labels

/-- A demand for labels with given values. -/
structure Selector where
  terms : Labels := .empty
deriving DecidableEq, Repr

namespace Selector

/-- The selector that every object meets. -/
def everything : Selector := {}

/-- The selector of one label. -/
def label (key value : String) : Selector := ⟨.single key value⟩

/-- The selector asks for nothing. -/
def isEmpty (s : Selector) : Bool := s.terms.entries.isEmpty

/-- The labels, where there are any, have all values that are asked for. -/
def selects (s : Selector) (labels : Option Labels) : Bool :=
  s.terms.entries.all fun (key, value) => labels.bind (·.get? key) == some value

/-- The terms, each as key and value around `=`, separated by commas. -/
def text (s : Selector) : String :=
  ",".intercalate (s.terms.entries.map fun (key, value) => key ++ "=" ++ value)

end Selector

end Stevedore
