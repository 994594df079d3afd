import Stevedore.Http.Router
import Stevedore.Proofs.Name
import Stevedore.Proofs.Text.Percent
/-!
# The paths of resources

Three kinds of paths lead to a resource: those of all deployments and of the adapter, and for each
segment that of one deployment. Some names can stand in a path as they are, those of network objects
among them.

Main definitions:

- `Text.IsSegment`: what stands between two slashes of a path.
- `Text.StandsForItself`: a name that is a segment of a path as it is.
- `Http.Resource.path`: the path of a resource.

Main results:

- Theorem `ofPath?_eq_some_iff`: a path leads to the resource whose path it is, and to no other.
- Theorem `idOf_of_standsForItself`: the id that stands in a path as it is.
-/

namespace Stevedore

/-- A part of a path between two slashes: it is not empty, and no slash stands in it. -/
def Text.IsSegment (cs : List Char) : Prop := cs ≠ [] ∧ '/' ∉ cs

instance (cs : List Char) : Decidable (Text.IsSegment cs) := inferInstanceAs (Decidable (_ ∧ _))

namespace Text

/-- The name is a segment of a path as it is: no character of it ends a path or a segment, and decoding
leaves it alone. -/
structure StandsForItself (name : String) : Prop where
  segment : IsSegment name.toList
  query : '?' ∉ name.toList
  fragment : '#' ∉ name.toList
  decoded : percentDecode (utf8 name.toList) = utf8 name.toList

/-- Names of network objects stand for themselves. -/
theorem standsForItself_of_isNetworkChar {name : String} (hname : name ≠ "")
    (hchars : name.toList.all Name.isNetworkChar) : StandsForItself name := by
  rw [List.all_eq_true] at hchars
  have habsent : ∀ c, Name.isNetworkChar c = false → c ∉ name.toList := by
    intro c hc hmem
    rw [hchars c hmem] at hc
    contradiction
  refine ⟨⟨by simpa using hname, habsent '/' (by decide)⟩, habsent '?' (by decide),
    habsent '#' (by decide), percentDecode_utf8 (habsent '%' (by decide))⟩

end Text

namespace Http

open Text (IsSegment pieces pieces_of_not_mem pieces_append utf8)

namespace Resource

/-- The path of a resource. -/
def path : Resource → List Char
  | deployments => "/v1/services".toList
  | deployment segment => "/v1/services/".toList ++ segment
  | adapter => "/v1/metadata".toList

/-- Only what is a segment leads to a deployment. -/
def IsPlace : Resource → Prop
  | deployment segment => IsSegment segment
  | _ => True

/-- The pieces of the path of a resource. -/
def places : Resource → List (List Char)
  | deployments => [[], "v1".toList, "services".toList]
  | deployment segment => [[], "v1".toList, "services".toList, segment]
  | adapter => [[], "v1".toList, "metadata".toList]

/-- The path of a place consists of its pieces, none of which holds a slash. -/
theorem pieces_path {r : Resource} (h : r.IsPlace) : pieces '/' r.path = r.places := by
  cases r with
  | deployments => decide
  | deployment segment =>
      have hshape : (deployment segment).path =
          [] ++ '/' :: ("v1".toList ++ '/' :: ("services".toList ++ '/' :: segment)) := rfl
      rw [hshape, pieces_append (by decide), pieces_append (by decide), pieces_append (by decide),
        pieces_of_not_mem h.2]
      rfl
  | adapter => decide

/-- A path leads to the resource whose path it is, and to no other. -/
theorem ofPath?_eq_some_iff (path : List Char) (r : Resource) :
    ofPath? path = some r ↔ path = r.path ∧ r.IsPlace := by
  constructor
  · intro h
    have hpath := Text.joined_pieces '/' path
    have hpieces : ∀ piece ∈ pieces '/' path, '/' ∉ piece := fun _ => Text.not_mem_of_mem_pieces
    unfold ofPath? at h
    split at h
    · next version name heq =>
        rw [heq] at hpath
        by_cases hversion : version = "v1".toList
        · rw [if_neg (not_not_intro hversion)] at h
          split at h
          · next hname =>
              obtain rfl := Option.some.inj h
              rw [hversion, hname] at hpath
              exact ⟨hpath.symm, trivial⟩
          · split at h
            · next hname =>
                obtain rfl := Option.some.inj h
                rw [hversion, hname] at hpath
                exact ⟨hpath.symm, trivial⟩
            · contradiction
        · rw [if_pos hversion] at h
          contradiction
    · next version name segment heq =>
        rw [heq] at hpath hpieces
        split at h
        · next hplace =>
            obtain ⟨rfl, rfl, hsegment⟩ := hplace
            obtain rfl := Option.some.inj h
            exact ⟨hpath.symm, hsegment, hpieces segment (by simp)⟩
        · contradiction
    · contradiction
  · rintro ⟨rfl, hplace⟩
    unfold ofPath?
    rw [pieces_path hplace]
    cases r with
    | deployments => rfl
    | deployment segment => exact if_pos ⟨rfl, rfl, hplace.1⟩
    | adapter => rfl

end Resource

/-! ## Ids -/

/-- An id that stands for itself is what its segment stands for. -/
theorem idOf_of_standsForItself {id : String} (h : Text.StandsForItself id) :
    idOf id.toList = some id := by
  unfold idOf
  rw [Text.toList_toUTF8, String.toList_ofList, h.decoded]
  exact Text.fromUTF8?_utf8 id

end Http

end Stevedore
