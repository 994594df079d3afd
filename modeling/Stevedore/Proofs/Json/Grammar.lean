import Stevedore.Json.Number
import Stevedore.Proofs.Json.Text
/-!
# The texts of JSON values

The grammar says which texts are those of a JSON value, with blanks between its parts and with every
escape that a literal may hold. It does not bound how deep values are nested, nor the size of a number.

Main definitions:

- `Json.Gap`: blanks between the parts of a text.
- `Json.LiteralText` and `Json.Writes`: what may stand between the quotes of a literal, and for which
  characters it stands.
- `Json.NumberText`: numbers.
- `Json.listText` and `Json.objectText`: lists and objects from the texts of their parts.
- `Json.ValueText`: the texts of values.
- `Json.Ends`: what may follow a value.
-/

namespace Stevedore.Json

open Text (utf8)

/-! ## Blanks -/

/-- Blanks between the parts of a text. -/
structure Gap where
  bytes : List UInt8 := []
  blank : ∀ b ∈ bytes, Cursor.IsBlank b := by exact List.forall_mem_nil _

/-- Two gaps in a row. -/
def Gap.append (g h : Gap) : Gap where
  bytes := g.bytes ++ h.bytes
  blank := by
    rw [List.forall_mem_append]
    exact ⟨g.blank, h.blank⟩

/-- A blank, a comma or a closing bracket is next, or the text is over. -/
def Ends (rest : List UInt8) : Prop :=
  ∀ b ∈ rest.head?, Cursor.IsBlank b ∨ b = 0x2C ∨ b = 0x5D ∨ b = 0x7D

theorem ends_nil : Ends [] := by
  simp [Ends]

/-- Blanks may stand before what ends a value. -/
theorem Ends.gap {rest : List UInt8} (h : Ends rest) (gap : Gap) : Ends (gap.bytes ++ rest) := by
  obtain ⟨bytes, hblank⟩ := gap
  cases bytes with
  | nil => exact h
  | cons b more =>
      rw [List.forall_mem_cons] at hblank
      intro b' hb'
      obtain rfl : b = b' := by simpa using hb'
      exact .inl hblank.1

/-- A value may be followed by blanks only. -/
theorem Gap.ends (gap : Gap) : Ends gap.bytes := by
  have hgap := ends_nil.gap gap
  rwa [List.append_nil] at hgap

/-- What follows a value is none of what a number goes on with. -/
theorem Ends.cases {rest : List UInt8} (h : Ends rest) :
    rest = [] ∨ ∃ b more, rest = b :: more ∧ b ∈ [0x20, 0x09, 0x0A, 0x0D, 0x2C, 0x5D, 0x7D] := by
  cases rest with
  | nil => exact .inl rfl
  | cons b more =>
      refine .inr ⟨b, more, rfl, ?_⟩
      rcases h b rfl with (rfl | rfl | rfl | rfl) | rfl | rfl | rfl <;> simp

/-- Blanks before a part are passed over. -/
theorem Cursor.skipBlanks_gap (gap : Gap) {b : UInt8} (hb : ¬ IsBlank b) (more : List UInt8)
    (p : Position) : ∃ q, (Cursor.mk (gap.bytes ++ b :: more) p).skipBlanks = ⟨b :: more, q⟩ := by
  obtain ⟨bytes, hblank⟩ := gap
  change ∃ q, skipBlanks.go (bytes ++ b :: more) p = _
  induction bytes generalizing p with
  | nil => exact ⟨p, skipBlanks_cons more p hb⟩
  | cons first rest ih =>
      rw [List.forall_mem_cons] at hblank
      obtain ⟨q, hskip⟩ := ih (p.after first) hblank.2
      refine ⟨q, ?_⟩
      rw [List.cons_append, skipBlanks.go]
      exact (if_pos hblank.1).trans hskip

/-- After blanks alone nothing is left. -/
theorem Cursor.skipBlanks_gap_end (gap : Gap) (p : Position) :
    ∃ q, (Cursor.mk gap.bytes p).skipBlanks = ⟨[], q⟩ := by
  obtain ⟨bytes, hblank⟩ := gap
  change ∃ q, skipBlanks.go bytes p = _
  induction bytes generalizing p with
  | nil => exact ⟨p, rfl⟩
  | cons first rest ih =>
      rw [List.forall_mem_cons] at hblank
      obtain ⟨q, hskip⟩ := ih (p.after first) hblank.2
      refine ⟨q, ?_⟩
      rw [skipBlanks.go]
      exact (if_pos hblank.1).trans hskip

/-! ## Literals -/

/-- The character may stand for itself in a literal. -/
def Unescaped (c : Char) : Prop := 0x20 ≤ c.toNat ∧ c ≠ '"' ∧ c ≠ '\\'

/-- Four hexadecimal digits and their value. -/
inductive CodeUnit : List UInt8 → Nat → Prop
  | mk {a b d e : UInt8} {u v w x : Nat} (ha : hexValue? a = some u) (hb : hexValue? b = some v)
      (hd : hexValue? d = some w) (he : hexValue? e = some x) :
      CodeUnit [a, b, d, e] (((u * 16 + v) * 16 + w) * 16 + x)

/-- What may stand between the quotes of a literal. Any code may be written, also one that is no
character. -/
inductive LiteralText : List UInt8 → Prop
  | nil : LiteralText []
  | raw {c : Char} {body : List UInt8} (hc : Unescaped c) (h : LiteralText body) :
      LiteralText (String.utf8EncodeChar c ++ body)
  | letter {b : UInt8} {c : Char} {body : List UInt8} (hb : escaped? (Char.ofNat b.toNat) = some c)
      (h : LiteralText body) : LiteralText (0x5C :: b :: body)
  | code {digits body : List UInt8} {n : Nat} (hdigits : CodeUnit digits n) (h : LiteralText body) :
      LiteralText (0x5C :: 0x75 :: (digits ++ body))

/-- Between the quotes of a literal, the bytes stand for these characters: each as itself, as a letter
behind a backslash, by its code or by the two codes of a surrogate pair. -/
inductive Writes : List Char → List UInt8 → Prop
  | nil : Writes [] []
  | raw {c : Char} {cs : List Char} {body : List UInt8} (hc : Unescaped c) (h : Writes cs body) :
      Writes (c :: cs) (String.utf8EncodeChar c ++ body)
  | letter {b : UInt8} {c : Char} {cs : List Char} {body : List UInt8}
      (hb : escaped? (Char.ofNat b.toNat) = some c) (h : Writes cs body) :
      Writes (c :: cs) (0x5C :: b :: body)
  | code {c : Char} {cs : List Char} {digits body : List UInt8} (hdigits : CodeUnit digits c.toNat)
      (h : Writes cs body) : Writes (c :: cs) (0x5C :: 0x75 :: (digits ++ body))
  | pair {c : Char} {cs : List Char} {first second body : List UInt8} {lead trail : Nat}
      (hfirst : CodeUnit first lead) (hsecond : CodeUnit second trail)
      (hlead : isLeading lead = true) (htrail : isTrailing trail = true)
      (hc : pairValue lead trail = c.toNat) (h : Writes cs body) :
      Writes (c :: cs) (0x5C :: 0x75 :: (first ++ 0x5C :: 0x75 :: (second ++ body)))

/-- What is written of characters is the body of a literal. -/
theorem Writes.literalText {cs : List Char} {body : List UInt8} (h : Writes cs body) :
    LiteralText body := by
  induction h with
  | nil => exact .nil
  | raw hc _ ih => exact .raw hc ih
  | letter hb _ ih => exact .letter hb ih
  | code hdigits _ ih => exact .code hdigits ih
  | pair hfirst hsecond _ _ _ _ ih => exact .code hfirst (.code hsecond ih)

/-! ## Numbers -/

/-- One or more digits. -/
def Digits (ds : List UInt8) : Prop := ds ≠ [] ∧ ∀ b ∈ ds, (digit? b).isSome

/-- The digits before the point; only zero begins with a zero. -/
inductive WholeText : List UInt8 → Prop
  | zero : WholeText [0x30]
  | digits {b : UInt8} {ds : List UInt8} (hzero : b ≠ 0x30) (h : Digits (b :: ds)) :
      WholeText (b :: ds)

/-- A point and digits, or nothing. -/
inductive FractionText : List UInt8 → Prop
  | absent : FractionText []
  | present {ds : List UInt8} (h : Digits ds) : FractionText (0x2E :: ds)

/-- A small or capital `e`, perhaps a sign, and digits, or nothing. -/
inductive ExponentText : List UInt8 → Prop
  | absent : ExponentText []
  | present {e : UInt8} {sign ds : List UInt8} (he : e = 0x65 ∨ e = 0x45)
      (hsign : sign = [] ∨ sign = [0x2B] ∨ sign = [0x2D]) (h : Digits ds) :
      ExponentText (e :: (sign ++ ds))

/-- A number, perhaps with a minus sign. -/
inductive NumberText : List UInt8 → Prop
  | mk {sign whole fraction exponent : List UInt8} (hsign : sign = [] ∨ sign = [0x2D])
      (hwhole : WholeText whole) (hfraction : FractionText fraction)
      (hexponent : ExponentText exponent) :
      NumberText (sign ++ (whole ++ (fraction ++ exponent)))

/-! ## Lists and objects -/

/-- The text of a value with the blanks around it. -/
structure ItemText where
  before : Gap := {}
  text : List UInt8
  after : Gap := {}

/-- What stands between the quotes of a key, with the blanks around the key, and the value behind the
colon. -/
structure MemberText where
  before : Gap := {}
  key : List UInt8
  between : Gap := {}
  value : ItemText

/-- What separates an item or a member from the one before it. -/
def separator (first : Bool) : List UInt8 := if first then [] else [0x2C]

/-- The bytes of an item with the blanks around it. -/
def ItemText.bytes (x : ItemText) : List UInt8 := x.before.bytes ++ (x.text ++ x.after.bytes)

/-- The bytes of a member: its blanks, the key between quotes, the colon and the value. -/
def MemberText.bytes (m : MemberText) : List UInt8 :=
  m.before.bytes ++ 0x22 :: (m.key ++ 0x22 :: (m.between.bytes ++ 0x3A :: m.value.bytes))

/-- Items with the commas between them. -/
def itemsText : (first : Bool) → List ItemText → List UInt8
  | _, [] => []
  | first, x :: rest => separator first ++ (x.bytes ++ itemsText false rest)

/-- Members with the commas between them. -/
def membersText : (first : Bool) → List MemberText → List UInt8
  | _, [] => []
  | first, m :: rest => separator first ++ (m.bytes ++ membersText false rest)

/-- After an item its list is over, or a comma stands there. -/
theorem ends_itemsText (items : List ItemText) (rest : List UInt8) :
    Ends (itemsText false items ++ 0x5D :: rest) := by
  cases items <;> simp [itemsText, separator, Ends]

/-- After the members of an object comes its closing brace. -/
theorem ends_membersText (members : List MemberText) (rest : List UInt8) :
    Ends (membersText false members ++ 0x7D :: rest) := by
  cases members <;> simp [membersText, separator, Ends]

/-- A list; the blanks come after the opening bracket. -/
def listText (gap : Gap) (items : List ItemText) : List UInt8 :=
  0x5B :: (gap.bytes ++ (itemsText true items ++ [0x5D]))

/-- An object; the blanks come after the opening brace. -/
def objectText (gap : Gap) (members : List MemberText) : List UInt8 :=
  0x7B :: (gap.bytes ++ (membersText true members ++ [0x7D]))

/-! ## Values -/

/-- The text is that of a JSON value. -/
inductive ValueText : List UInt8 → Prop
  | null : ValueText [0x6E, 0x75, 0x6C, 0x6C]
  | true : ValueText [0x74, 0x72, 0x75, 0x65]
  | false : ValueText [0x66, 0x61, 0x6C, 0x73, 0x65]
  | number {t : List UInt8} (h : NumberText t) : ValueText t
  | string {body : List UInt8} (h : LiteralText body) : ValueText (0x22 :: (body ++ [0x22]))
  | list (gap : Gap) {items : List ItemText} (h : ∀ x ∈ items, ValueText x.text) :
      ValueText (listText gap items)
  | object (gap : Gap) {members : List MemberText} (hkeys : ∀ m ∈ members, LiteralText m.key)
      (h : ∀ m ∈ members, ValueText m.value.text) : ValueText (objectText gap members)

/-- The keys are literals and the values are values. -/
def MembersText (members : List MemberText) : Prop :=
  ∀ m ∈ members, LiteralText m.key ∧ ValueText m.value.text

/-- The first byte of a number. -/
theorem NumberText.exists_first {t : List UInt8} (h : NumberText t) :
    ∃ b more, t = b :: more ∧ (b = 0x2D ∨ (digit? b).isSome) := by
  obtain ⟨rfl | rfl, hwhole, -, -⟩ := h
  · cases hwhole with
    | zero => exact ⟨0x30, _, rfl, .inr rfl⟩
    | digits _ hdigits => exact ⟨_, _, rfl, .inr (hdigits.2 _ List.mem_cons_self)⟩
  · exact ⟨0x2D, _, rfl, .inl rfl⟩

theorem ne_of_digit {b b' : UInt8} (h : (digit? b).isSome) (h' : digit? b' = none) : b ≠ b' := by
  rintro rfl
  rw [h'] at h
  contradiction

theorem not_isBlank_of_digit {b : UInt8} (h : (digit? b).isSome) : ¬ Cursor.IsBlank b := by
  rintro (rfl | rfl | rfl | rfl) <;> exact absurd h (by decide)

/-- Every value opens with a byte that opens values. -/
theorem ValueText.opens {t : List UInt8} (h : ValueText t) : Opens t := by
  cases h with
  | null => exact ⟨_, _, rfl, by decide, by decide⟩
  | true => exact ⟨_, _, rfl, by decide, by decide⟩
  | false => exact ⟨_, _, rfl, by decide, by decide⟩
  | number h =>
      obtain ⟨b, more, rfl, rfl | hdigit⟩ := h.exists_first
      · exact ⟨_, _, rfl, by decide, by decide⟩
      · exact ⟨_, _, rfl, not_isBlank_of_digit hdigit, ne_of_digit hdigit rfl⟩
  | string => exact ⟨_, _, rfl, by decide, by decide⟩
  | list => exact ⟨_, _, rfl, by decide, by decide⟩
  | object => exact ⟨_, _, rfl, by decide, by decide⟩

/-! ## Compact texts -/

/-- The compact text of a value without blanks around it. -/
def compactItem (j : Json) : ItemText := { text := bytes j }

/-- The compact text of a member. -/
def compactMember (m : String × Json) : MemberText where
  key := literalBytes m.1
  value := compactItem m.2

/-- The compact texts of members, with their keys. -/
def compactMembers (members : List (String × Json)) : List (String × MemberText) :=
  members.map fun m => (m.1, compactMember m)

/-- Written compactly, the members of an object stand under its keys. -/
theorem keys_compactMembers (members : List (String × Json)) :
    (compactMembers members).map (·.1) = members.map (·.1) := by
  simp [compactMembers]

/-- Written compactly, they have the texts of its members. -/
theorem texts_compactMembers (members : List (String × Json)) :
    (compactMembers members).map (·.2) = members.map compactMember := by
  simp [compactMembers]

/-- The bytes of rendered items are those of the items, written compactly. -/
theorem utf8_renderItems (items : List Json) :
    utf8 (renderItems items).toList = itemsText true (items.map compactItem) := by
  have hcomma : String.utf8EncodeChar ',' = [0x2C] := by decide
  induction items with
  | nil => rfl
  | cons item rest ih =>
      cases rest with
      | nil => simp [renderItems, itemsText, separator, ItemText.bytes, compactItem, bytes]
      | cons next more =>
          rw [renderItems]
          simp [ih, itemsText, separator, ItemText.bytes, compactItem, bytes, hcomma]

/-- The bytes of rendered members are those of the members, written compactly. -/
theorem utf8_renderMembers (members : List (String × Json)) :
    utf8 (renderMembers members).toList = membersText true (members.map compactMember) := by
  have hcomma : String.utf8EncodeChar ',' = [0x2C] := by decide
  have hcolon : String.utf8EncodeChar ':' = [0x3A] := by decide
  induction members with
  | nil => rfl
  | cons m rest ih =>
      cases rest with
      | nil =>
          simp [renderMembers, membersText, separator, MemberText.bytes, ItemText.bytes,
            compactMember, compactItem, bytes, utf8_toList_quote, hcolon]
      | cons next more =>
          rw [renderMembers]
          simp [ih, membersText, separator, MemberText.bytes, ItemText.bytes, compactMember,
            compactItem, bytes, utf8_toList_quote, hcolon, hcomma]

/-- The compact text of a list. -/
theorem bytes_array (items : List Json) :
    bytes (.array items) = listText {} (items.map compactItem) := by
  have hopen : String.utf8EncodeChar '[' = [0x5B] := by decide
  have hclose : String.utf8EncodeChar ']' = [0x5D] := by decide
  rw [bytes, render]
  simp [utf8_renderItems, listText, hopen, hclose]

/-- The compact text of an object. -/
theorem bytes_object (members : List (String × Json)) :
    bytes (.object members) = objectText {} ((compactMembers members).map (·.2)) := by
  have hopen : String.utf8EncodeChar '\x7b' = [0x7B] := by decide
  have hclose : String.utf8EncodeChar '\x7d' = [0x7D] := by decide
  rw [bytes, render, texts_compactMembers]
  simp [utf8_renderMembers, objectText, hopen, hclose]

end Stevedore.Json
