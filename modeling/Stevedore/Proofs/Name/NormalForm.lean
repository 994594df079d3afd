import Mathlib.Logic.Relation
import Stevedore.Proofs.Name
/-!
# Names that share a network name

A network name does not show whether a letter was a capital, nor which characters other than letters
and digits stood in a place, nor how many. It shows everything else: two names have the same network
name exactly if one can be turned into the other by changes of these two kinds. So the network name is
a normal form of all names that are alike, and it is the one among them that has the shape.

Main definitions:

- `Name.Change`: one change that the network name does not show.
- `Name.Alike`: any number of such changes, in either direction.

Main results:

- Theorem `alike_sanitize`: a name is turned into its network name.
- Theorem `collapse_eq_of_alike`: names that are alike have the same network name.
- Theorem `sanitize_normalizes`: the shape, the names that are left alone, names put together, and when
  two names have the same network name.
-/

namespace Stevedore.Name

/-! ## Changes that do not show -/

/-- A capital letter becomes small, or other characters take the place of some that are no letters and no
digits. -/
inductive Change : List Char → List Char → Prop
  | capital (before after : List Char) {c : Char} (hc : c.isUpper) :
      Change (before ++ c :: after) (before ++ c.toLower :: after)
  | others (before after : List Char) {run run' : List Char} (hne : run ≠ []) (hne' : run' ≠ [])
      (hrun : ∀ c ∈ run, isKept c = false) (hrun' : ∀ c ∈ run', isKept c = false) :
      Change (before ++ (run ++ after)) (before ++ (run' ++ after))

/-- One name is turned into the other. -/
def Alike : List Char → List Char → Prop := Relation.EqvGen Change

variable {cs ds : List Char}

/-- A change may come after any character. -/
theorem Change.cons (c : Char) (h : Change cs ds) : Change (c :: cs) (c :: ds) := by
  cases h with
  | capital before after hc => exact .capital (c :: before) after hc
  | others before after hne hne' hrun hrun' =>
      exact .others (c :: before) after hne hne' hrun hrun'

/-- A change may come before anything else. -/
theorem Change.append (h : Change cs ds) (after : List Char) : Change (cs ++ after) (ds ++ after) := by
  cases h with
  | capital before more hc =>
      simpa using Change.capital before (more ++ after) hc
  | others before more hne hne' hrun hrun' =>
      simpa using Change.others before (more ++ after) hne hne' hrun hrun'

namespace Alike

theorem refl (cs : List Char) : Alike cs cs := Relation.EqvGen.refl cs

theorem symm (h : Alike cs ds) : Alike ds cs := Relation.EqvGen.symm _ _ h

theorem trans {es : List Char} (h : Alike cs ds) (h' : Alike ds es) : Alike cs es :=
  Relation.EqvGen.trans _ _ _ h h'

/-- What is changed within a part of a name is changed within the name. -/
theorem map {f : List Char → List Char} (hf : ∀ cs ds, Change cs ds → Change (f cs) (f ds))
    (h : Alike cs ds) : Alike (f cs) (f ds) := by
  induction h with
  | rel cs ds hchange => exact .rel _ _ (hf cs ds hchange)
  | refl cs => exact refl _
  | symm cs ds _ ih => exact ih.symm
  | trans cs ds es _ _ ih ih' => exact ih.trans ih'

/-- Like texts are so after any character. -/
theorem cons (c : Char) (h : Alike cs ds) : Alike (c :: cs) (c :: ds) :=
  h.map fun _ _ hchange => hchange.cons c

/-- Like texts are so after any text. -/
theorem append_left (before : List Char) (h : Alike cs ds) : Alike (before ++ cs) (before ++ ds) := by
  induction before with
  | nil => exact h
  | cons c before ih => exact ih.cons c

/-- Names that are alike may be put together. -/
theorem append {cs' ds' : List Char} (h : Alike cs ds) (h' : Alike cs' ds') :
    Alike (cs ++ cs') (ds ++ ds') :=
  (h.map fun _ _ hchange => hchange.append cs').trans (h'.append_left ds)

/-- A letter or digit in lower case. -/
theorem toLower (c : Char) (rest : List Char) : Alike (c :: rest) (c.toLower :: rest) := by
  by_cases hc : c.isUpper
  · exact .rel _ _ (.capital [] rest hc)
  · have hsmall : c.toLower = c := by
      rw [isUpper_iff] at hc
      rw [← Char.toNat_inj, toNat_toLower, if_neg hc]
    rw [hsmall]
    exact refl _

/-- A hyphen in place of one or two characters that are not kept. -/
theorem hyphen {c : Char} (hc : isKept c = false) (rest : List Char) :
    Alike (c :: rest) ('-' :: rest) ∧ Alike ('-' :: c :: rest) ('-' :: rest) := by
  have hhyphen : isKept '-' = false := by decide
  have hsingle : Change ([] ++ ([c] ++ rest)) ([] ++ (['-'] ++ rest)) :=
    .others [] rest (by simp) (by simp) (by simpa using hc) (by simp [hhyphen])
  have hpair : Change ([] ++ (['-', c] ++ rest)) ([] ++ (['-'] ++ rest)) :=
    .others [] rest (by simp) (by simp) (by simp [hc, hhyphen]) (by simp [hhyphen])
  exact ⟨.rel _ _ hsingle, .rel _ _ hpair⟩

end Alike

/-! ## Names and their network names -/

/-- Characters are turned into what they collapse to. After a run, the hyphen for it stands in front. -/
theorem alike_collapse (cs : List Char) :
    Alike cs (collapse false cs) ∧ Alike ('-' :: cs) ('-' :: collapse true cs) := by
  induction cs with
  | nil => exact ⟨.refl _, .refl _⟩
  | cons c rest ih =>
      obtain ⟨ihFalse, ihTrue⟩ := ih
      unfold collapse
      by_cases hc : isKept c
      · rw [if_pos hc, if_pos hc]
        have hsmall : Alike (c :: rest) (c.toLower :: collapse false rest) :=
          (Alike.toLower c rest).trans (ihFalse.cons c.toLower)
        exact ⟨hsmall, hsmall.cons '-'⟩
      · rw [if_neg hc, if_neg hc, if_neg (by simp), if_pos rfl]
        obtain ⟨hone, htwo⟩ := Alike.hyphen (eq_false_of_ne_true hc) rest
        exact ⟨hone.trans ihTrue, htwo.trans ihTrue⟩

/-- A name is like its network name. -/
theorem alike_sanitize (name : String) : Alike name.toList (sanitize name).toList := by
  rw [toList_sanitize]
  exact (alike_collapse name.toList).1

/-- What comes after a part that collapses alike, whatever was before it, makes no difference. -/
theorem collapse_append_congr (h : ∀ inRun, collapse inRun cs = collapse inRun ds)
    (before : List Char) (inRun : Bool) :
    collapse inRun (before ++ cs) = collapse inRun (before ++ ds) := by
  induction before generalizing inRun with
  | nil => exact h inRun
  | cons c before ih =>
      rw [List.cons_append, List.cons_append, collapse, collapse, ih, ih]

/-- A run that is not kept collapses to its hyphen, unless a run goes on. -/
theorem collapse_others {run : List Char} (hne : run ≠ []) (hrun : ∀ c ∈ run, isKept c = false)
    (inRun : Bool) (after : List Char) :
    collapse inRun (run ++ after) =
      if inRun then collapse true after else '-' :: collapse true after := by
  induction run generalizing inRun with
  | nil => contradiction
  | cons c more ih =>
      rw [List.forall_mem_cons] at hrun
      have hmore : collapse true (more ++ after) = collapse true after := by
        cases more with
        | nil => rfl
        | cons d more => exact ih (List.cons_ne_nil d more) hrun.2 true
      rw [List.cons_append, collapse, if_neg (by simp [hrun.1]), hmore]

/-- A change does not alter the network name. -/
theorem collapse_eq_of_change (h : Change cs ds) (inRun : Bool) :
    collapse inRun cs = collapse inRun ds := by
  cases h with
  | @capital before after c hc =>
      refine collapse_append_congr (fun inRun => ?_) before inRun
      rw [isUpper_iff] at hc
      have hnat : c.toLower.toNat = c.toNat + 32 := by rw [toNat_toLower, if_pos hc]
      have hsmall : c.toLower.toLower = c.toLower := by
        rw [← Char.toNat_inj, toNat_toLower, if_neg (by omega)]
      have hkept : isKept c := (isKept_iff c).2 (.inl hc)
      have hkept' : isKept c.toLower := (isKept_iff _).2 (.inr (.inl (by omega)))
      rw [collapse, collapse, if_pos hkept, if_pos hkept', hsmall]
  | others before after hne hne' hrun hrun' =>
      refine collapse_append_congr (fun inRun => ?_) before inRun
      rw [collapse_others hne hrun, collapse_others hne' hrun']

/-- Names that are alike collapse to the same characters. -/
theorem collapse_eq_of_alike (h : Alike cs ds) (inRun : Bool) :
    collapse inRun cs = collapse inRun ds := by
  induction h with
  | rel cs ds hchange => exact collapse_eq_of_change hchange inRun
  | refl cs => rfl
  | symm cs ds _ ih => exact ih.symm
  | trans cs ds es _ _ ih ih' => exact ih.trans ih'

/-- Names have the same network name exactly if they are alike. -/
theorem sanitize_eq_iff_alike (x y : String) :
    sanitize x = sanitize y ↔ Alike x.toList y.toList := by
  constructor
  · intro h
    have hx := alike_sanitize x
    rw [h] at hx
    exact hx.trans (alike_sanitize y).symm
  · intro h
    unfold sanitize
    rw [collapse_eq_of_alike h]

/-! ## The shape -/

/-- No two hyphens stand side by side exactly if they are no part of the characters. -/
theorem noDoubleHyphen_iff (cs : List Char) : noDoubleHyphen cs ↔ ¬ ['-', '-'] <:+: cs := by
  induction cs with
  | nil => simp [noDoubleHyphen]
  | cons c rest ih =>
      rw [noDoubleHyphen_cons_iff, ih, List.infix_cons_iff, not_or]
      refine and_congr_left fun _ => ?_
      unfold MayFollow
      have hbegins : ['-', '-'] <+: c :: rest ↔ c = '-' ∧ rest.head? = some '-' := by
        rw [List.cons_prefix_cons, eq_comm]
        cases rest with
        | nil => simp
        | cons d rest => simp [List.cons_prefix_cons, eq_comm]
      rw [hbegins, beq_iff_eq, not_and]

/-- A network name has small letters, digits and hyphens, and no two hyphens in a row. -/
theorem isNetworkName_iff (x : String) : IsNetworkName x ↔
    (∀ c ∈ x.toList, ('a' ≤ c ∧ c ≤ 'z') ∨ ('0' ≤ c ∧ c ≤ '9') ∨ c = '-') ∧
      ¬ ['-', '-'] <:+: x.toList := by
  unfold IsNetworkName
  rw [List.all_eq_true, noDoubleHyphen_iff]
  refine and_congr_left fun _ => forall₂_congr fun c _ => ?_
  rw [isNetworkChar_iff]
  simp [Char.le_def, UInt32.le_iff_toNat_le]

/-- Only the empty name has an empty network name. -/
theorem sanitize_eq_empty_iff (x : String) : sanitize x = "" ↔ x = "" := by
  rw [← String.toList_eq_nil_iff, ← String.toList_eq_nil_iff, toList_sanitize]
  cases x.toList with
  | nil => simp [collapse]
  | cons c rest =>
      unfold collapse
      split <;> simp

/-- A network name consists of small letters, digits and hyphens no two of which stand side by side.
The sanitizer returns such names, all of them, and leaves alone these and no others. It makes nothing out
of nothing only. Names may be sanitized before or after they are put together, and two names have the
same network name exactly if they are alike. -/
theorem sanitize_normalizes (x y : String) :
    (IsNetworkName x ↔
      (∀ c ∈ x.toList, ('a' ≤ c ∧ c ≤ 'z') ∨ ('0' ≤ c ∧ c ≤ '9') ∨ c = '-') ∧
        ¬ ['-', '-'] <:+: x.toList) ∧
    IsNetworkName (sanitize x) ∧
    (sanitize x = x ↔ IsNetworkName x) ∧
    sanitize (sanitize x) = sanitize x ∧
    ((∃ name, sanitize name = x) ↔ IsNetworkName x) ∧
    (sanitize x = "" ↔ x = "") ∧
    sanitize (x ++ y) = sanitize (sanitize x ++ sanitize y) ∧
    (sanitize x = sanitize y ↔ Alike x.toList y.toList) := by
  have hfixed : sanitize x = x ↔ IsNetworkName x :=
    ⟨fun h => h ▸ isNetworkName_sanitize x, sanitize_of_isNetworkName⟩
  refine ⟨isNetworkName_iff x, isNetworkName_sanitize x, hfixed, sanitize_sanitize x, ?_,
    sanitize_eq_empty_iff x, ?_, sanitize_eq_iff_alike x y⟩
  · constructor
    · rintro ⟨name, rfl⟩
      exact isNetworkName_sanitize name
    · exact fun h => ⟨x, hfixed.2 h⟩
  · rw [sanitize_eq_iff_alike, String.toList_append, String.toList_append]
    exact (alike_sanitize x).append (alike_sanitize y)

end Stevedore.Name
