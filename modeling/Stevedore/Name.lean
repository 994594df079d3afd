/-!
# Network names

A free-form service name becomes a name the cluster accepts: every maximal run of characters other
than the ASCII letters and digits becomes one hyphen, and letters become lower case.

Main definitions:

- `Name.sanitize`: the network name of a free-form name.
- `Name.IsNetworkName`: the shape of such names, said without the sanitizer.
-/

namespace Stevedore.Name

/-- A character that a name keeps: an ASCII letter or digit. -/
def isKept (c : Char) : Bool := c.isAlphanum

/-- The characters of a name in lower case, with one hyphen for each run of others. `inRun` tells
that the character before belongs to such a run. -/
def collapse (inRun : Bool) : List Char → List Char
  | [] => []
  | c :: rest =>
    if isKept c then c.toLower :: collapse false rest
    else if inRun then collapse true rest
    else '-' :: collapse true rest

/-- The network name of a free-form name. -/
def sanitize (name : String) : String := String.ofList (collapse false name.toList)

/-- The characters of a network name. -/
@[simp] theorem toList_sanitize (name : String) :
    (sanitize name).toList = collapse false name.toList := by
  simp [sanitize]

/-! ## The shape of network names -/

/-- A character of a network name. -/
def isNetworkChar (c : Char) : Bool := c.isLower || c.isDigit || c == '-'

/-- No two hyphens stand side by side. -/
def noDoubleHyphen : List Char → Bool
  | '-' :: '-' :: _ => false
  | _ :: rest => noDoubleHyphen rest
  | [] => true

/-- Lower-case letters, digits and single hyphens. -/
def IsNetworkName (name : String) : Prop :=
  name.toList.all isNetworkChar ∧ noDoubleHyphen name.toList

instance (name : String) : Decidable (IsNetworkName name) := inferInstanceAs (Decidable (_ ∧ _))

end Stevedore.Name
