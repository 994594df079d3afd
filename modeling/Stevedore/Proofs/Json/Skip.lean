import Stevedore.Proofs.Json.Tree
/-!
# Values passed over

The text of a value is passed over, however deep it is nested. The walk through the open brackets comes
from before a value to after it; this is the fact about one value from which those about the items of
a list and the members of an object are put together.

Main definition:

- `Json.Passed`: the walk passes a text inside any brackets.

Main results:

- Theorem `skipValue_text`: the text of a value is passed over.
- Theorem `reads_skipValue`: so is what is written of a value without fractions.
-/

namespace Stevedore.Json

open Text (utf8)

/-! ## Literals passed over -/

/-- Bytes that need no escape are skipped in a literal. -/
theorem skipLiteral_raw {bytes : List UInt8} (h : ∀ b ∈ bytes, IsRaw b) (rest : List UInt8)
    (p : Position) : ∃ q, skipLiteral ⟨bytes ++ rest, p⟩ = skipLiteral ⟨rest, q⟩ := by
  induction bytes generalizing p with
  | nil => exact ⟨p, rfl⟩
  | cons b more ih =>
      rw [List.forall_mem_cons] at h
      obtain ⟨hlow, hquote, hslash⟩ := h.1
      have hcontrol : ¬ b < 0x20 := by
        rw [UInt8.lt_iff_toNat_lt]
        exact Nat.not_lt.2 hlow
      obtain ⟨q, hmore⟩ := ih h.2 (p.after b)
      refine ⟨q, ?_⟩
      rw [List.cons_append, skipLiteral]
      simp only [if_neg hquote, if_neg hslash, if_neg hcontrol, hmore]

/-- An escape that can be skipped is skipped in a literal. -/
theorem skipLiteral_escape {letters rest : List UInt8}
    (h : ∀ p, ∃ q, skipEscape ⟨letters ++ rest, p⟩ = .ok ((), ⟨rest, q⟩)) (p : Position) :
    ∃ q, skipLiteral ⟨0x5C :: letters ++ rest, p⟩ = skipLiteral ⟨rest, q⟩ := by
  obtain ⟨q, hescape⟩ := h (p.after 0x5C)
  have hbefore : (Cursor.mk (0x5C :: (letters ++ rest)) p).Before ⟨rest, q⟩ := by
    simp only [Cursor.Before, List.length_cons, List.length_append]
    omega
  refine ⟨q, ?_⟩
  rw [List.cons_append, skipLiteral]
  simp only [Cursor.next_cons, hescape, dif_pos hbefore]
  rfl

/-- A letter after a backslash is skipped. -/
theorem skipEscape_letter {b : UInt8} {c : Char} (hu : Char.ofNat b.toNat ≠ 'u')
    (hletter : escaped? (Char.ofNat b.toNat) = some c) (rest : List UInt8) (p : Position) :
    skipEscape ⟨b :: rest, p⟩ = .ok ((), ⟨rest, p.after b⟩) := by
  unfold skipEscape
  rw [Cursor.head?_cons]
  split
  · contradiction
  · next h => exact absurd (Option.some.inj h) hu
  · next h =>
      obtain rfl := Option.some.inj h
      rw [hletter]
      rfl

/-- The letter u after a backslash is skipped together with its four digits. -/
theorem skipEscape_code {digits : List UInt8} {n : Nat} (h : CodeUnit digits n)
    (rest : List UInt8) (p : Position) :
    ∃ q, skipEscape ⟨0x75 :: (digits ++ rest), p⟩ = .ok ((), ⟨rest, q⟩) := by
  obtain ⟨q, hquad⟩ := readHexQuad_codeUnit h rest (p.after 0x75)
  refine ⟨q, ?_⟩
  change Reader.map (fun _ => ()) readHexQuad ⟨digits ++ rest, p.after 0x75⟩ = _
  rw [Reader.map, hquad]

/-- A literal is passed over. -/
theorem skipLiteral_text {body : List UInt8} (h : LiteralText body) (rest : List UInt8)
    (p : Position) : ∃ q, skipLiteral ⟨body ++ 0x22 :: rest, p⟩ = .ok ((), ⟨rest, q⟩) := by
  induction h generalizing p with
  | nil =>
      refine ⟨p.after 0x22, ?_⟩
      rw [List.nil_append, skipLiteral]
      rfl
  | @raw c body hc _ ih =>
      obtain ⟨q, hchar⟩ := skipLiteral_raw
        (fun b hb => isRaw_of_mem_utf8EncodeChar hc.1 hc.2.1 hc.2.2 hb) (body ++ 0x22 :: rest) p
      obtain ⟨q', hmore⟩ := ih q
      exact ⟨q', by rw [List.append_assoc, hchar, hmore]⟩
  | @letter b c body hb _ ih =>
      have hescape : ∀ p, ∃ q, skipEscape ⟨[b] ++ (body ++ 0x22 :: rest), p⟩ =
          .ok ((), ⟨body ++ 0x22 :: rest, q⟩) :=
        fun p => ⟨_, skipEscape_letter (ne_u_of_escaped hb) hb _ p⟩
      obtain ⟨q, hchar⟩ := skipLiteral_escape hescape p
      obtain ⟨q', hmore⟩ := ih q
      exact ⟨q', hchar.trans hmore⟩
  | @code digits body n hdigits _ ih =>
      have hescape : ∀ p, ∃ q, skipEscape ⟨0x75 :: digits ++ (body ++ 0x22 :: rest), p⟩ =
          .ok ((), ⟨body ++ 0x22 :: rest, q⟩) :=
        fun p => skipEscape_code hdigits _ p
      obtain ⟨q, hchar⟩ := skipLiteral_escape hescape p
      obtain ⟨q', hmore⟩ := ih q
      exact ⟨q', by simpa using hchar.trans hmore⟩

/-! ## Numbers passed over -/

/-- Digits are passed over up to what is no digit. -/
theorem skipDigits_digits {ds : List UInt8} (hds : ∀ b ∈ ds, (digit? b).isSome) {rest : List UInt8}
    (hrest : ∀ b ∈ rest.head?, digit? b = none) (p : Position) :
    ∃ q, (Cursor.mk (ds ++ rest) p).skipDigits = ⟨rest, q⟩ := by
  change ∃ q, (digitRun (ds ++ rest) p).2 = _
  induction ds generalizing p with
  | nil =>
      refine ⟨p, ?_⟩
      cases rest with
      | nil => rfl
      | cons b more =>
          rw [List.nil_append, digitRun, hrest b rfl]
  | cons b more ih =>
      rw [List.forall_mem_cons] at hds
      obtain ⟨d, hd⟩ := Option.isSome_iff_exists.1 hds.1
      obtain ⟨q, hmore⟩ := ih hds.2 (p.after b)
      refine ⟨q, ?_⟩
      rw [List.cons_append, digitRun, hd]
      exact hmore

/-- Digits start with a digit. -/
theorem Digits.atDigit {ds : List UInt8} (h : Digits ds) (rest : List UInt8) (p : Position) :
    (Cursor.mk (ds ++ rest) p).atDigit = true := by
  obtain ⟨hne, hdigits⟩ := h
  cases ds with
  | nil => contradiction
  | cons b more => exact hdigits b List.mem_cons_self

/-- What ends a value does not start with a digit. -/
theorem Ends.no_digit {rest : List UInt8} (h : Ends rest) : ∀ b ∈ rest.head?, digit? b = none := by
  intro b hb
  rcases h b hb with (rfl | rfl | rfl | rfl) | rfl | rfl | rfl <;> rfl

theorem digit_char {b : UInt8} (hb : (digit? b).isSome) {c : Char}
    (hc : c.toNat < 48 ∨ 57 < c.toNat) : Char.ofNat b.toNat ≠ c := by
  rw [ne_eq, ofNat_toNat_eq_iff]
  intro heq
  unfold digit? at hb
  rw [if_neg (by omega)] at hb
  contradiction

/-- A digit is no sign and no letter. -/
theorem Digits.head?_ne {ds : List UInt8} (h : Digits ds) {c : Char} (hc : c.toNat < 48 ∨ 57 < c.toNat)
    (rest : List UInt8) (p : Position) : (Cursor.mk (ds ++ rest) p).head? ≠ some c := by
  obtain ⟨hne, hdigits⟩ := h
  cases ds with
  | nil => contradiction
  | cons b more =>
      rw [List.cons_append, Cursor.head?_cons, ne_eq, Option.some.injEq]
      exact digit_char (hdigits b List.mem_cons_self) hc

/-- The digits of an exponent are skipped, with a sign or without. -/
theorem skipExponent_digits {sign ds rest : List UInt8}
    (hsign : sign = [] ∨ sign = [0x2B] ∨ sign = [0x2D]) (hds : Digits ds) (hrest : Ends rest)
    (p : Position) : ∃ q, skipExponent ⟨sign ++ (ds ++ rest), p⟩ = .ok ((), ⟨rest, q⟩) := by
  have hskip : ∀ p, ∃ q, (if (Cursor.mk (ds ++ rest) p).atDigit
      then .ok ((), (Cursor.mk (ds ++ rest) p).skipDigits)
      else fail .invalidNumber (Cursor.mk (ds ++ rest) p).next : Read Unit) =
        .ok ((), ⟨rest, q⟩) := by
    intro p
    obtain ⟨q, hdigits⟩ := skipDigits_digits hds.2 hrest.no_digit p
    exact ⟨q, by rw [if_pos (hds.atDigit rest p), hdigits]⟩
  rcases hsign with rfl | rfl | rfl
  · have hplus := hds.head?_ne (c := '+') (.inl (by decide)) rest p
    have hminus := hds.head?_ne (c := '-') (.inl (by decide)) rest p
    rw [List.nil_append]
    unfold skipExponent
    split
    · contradiction
    · contradiction
    · exact hskip p
  · exact hskip (p.after 0x2B)
  · exact hskip (p.after 0x2D)

/-- Passes over an exponent, if there is one. -/
def skipTail : Reader Unit := fun c =>
  match c.head? with
  | some 'e' | some 'E' => skipExponent c.next
  | _ => .ok ((), c)

/-- An exponent is skipped, or nothing where there is none. -/
theorem skipTail_text {exponent rest : List UInt8} (h : ExponentText exponent) (hrest : Ends rest)
    (p : Position) : ∃ q, skipTail ⟨exponent ++ rest, p⟩ = .ok ((), ⟨rest, q⟩) := by
  cases h with
  | absent =>
      refine ⟨p, ?_⟩
      rcases hrest.cases with rfl | ⟨b, more, rfl, hb⟩
      · rfl
      · simp only [List.mem_cons, List.not_mem_nil, or_false] at hb
        rcases hb with rfl | rfl | rfl | rfl | rfl | rfl | rfl <;> rfl
  | @present e sign ds he hsign hds =>
      have hshape : e :: (sign ++ ds) ++ rest = e :: (sign ++ (ds ++ rest)) := by
        simp
      obtain ⟨q, hskip⟩ := skipExponent_digits hsign hds hrest (p.after e)
      refine ⟨q, ?_⟩
      rw [hshape]
      rcases he with rfl | rfl <;> exact hskip

/-- After the digits of a number there is no digit, and after those of a fraction no point. -/
theorem ExponentText.first {exponent rest : List UInt8} (h : ExponentText exponent)
    (hrest : Ends rest) : ∀ b ∈ (exponent ++ rest).head?, digit? b = none ∧ Char.ofNat b.toNat ≠ '.' := by
  intro b hb
  cases h with
  | absent => rcases hrest b hb with (rfl | rfl | rfl | rfl) | rfl | rfl | rfl <;> decide
  | @present e sign ds he =>
      obtain rfl : e = b := by simpa using hb
      rcases he with rfl | rfl <;> decide

/-- What comes after the whole part of a number does not start with a digit. -/
theorem FractionText.first {fraction exponent rest : List UInt8} (h : FractionText fraction)
    (hexponent : ExponentText exponent) (hrest : Ends rest) :
    ∀ b ∈ (fraction ++ (exponent ++ rest)).head?, digit? b = none := by
  intro b hb
  cases h with
  | absent => exact (hexponent.first hrest b hb).1
  | @present ds _ =>
      obtain rfl : 0x2E = b := by simpa using hb
      rfl

/-- Without a point there is no fraction to skip. -/
theorem skipFraction_eq_skipTail {c : Cursor} (h : c.head? ≠ some '.') :
    skipFraction c = skipTail c := by
  unfold skipFraction
  split
  · contradiction
  · next he => simp [skipTail, he]
  · next he => simp [skipTail, he]
  · next he hE =>
      unfold skipTail
      split
      · exact absurd (by assumption) he
      · exact absurd (by assumption) hE
      · rfl

/-- What follows the digits before the point is passed over. -/
theorem skipFraction_text {fraction exponent rest : List UInt8} (hfraction : FractionText fraction)
    (hexponent : ExponentText exponent) (hrest : Ends rest) (p : Position) :
    ∃ q, skipFraction ⟨fraction ++ (exponent ++ rest), p⟩ = .ok ((), ⟨rest, q⟩) := by
  have hfirst := hexponent.first hrest
  cases hfraction with
  | absent =>
      obtain ⟨q, hskip⟩ := skipTail_text hexponent hrest p
      have hpoint : (Cursor.mk (exponent ++ rest) p).head? ≠ some '.' := by
        intro hhead
        obtain ⟨b, hb, hchar⟩ := Option.map_eq_some_iff.1 hhead
        exact (hfirst b hb).2 hchar
      exact ⟨q, (skipFraction_eq_skipTail hpoint).trans hskip⟩
  | @present ds hds =>
      obtain ⟨q, hdigits⟩ := skipDigits_digits hds.2 (fun b hb => (hfirst b hb).1) (p.after 0x2E)
      obtain ⟨q', hskip⟩ := skipTail_text hexponent hrest q
      have hat := hds.atDigit (exponent ++ rest) (p.after 0x2E)
      refine ⟨q', ?_⟩
      change (if !(Cursor.mk (ds ++ (exponent ++ rest)) (p.after 0x2E)).atDigit then _
        else skipTail (Cursor.mk (ds ++ (exponent ++ rest)) (p.after 0x2E)).skipDigits) = _
      rw [hat, hdigits]
      exact hskip

/-- Passes over a number after its sign. -/
def skipUnsigned : Reader Unit := fun c =>
  if !c.atDigit then fail .invalidNumber c.next
  else if c.head? = some '0' then
    if c.next.atDigit then failAhead .invalidNumber c.next else skipFraction c.next
  else skipFraction c.skipDigits

theorem skipNumber_eq (c : Cursor) :
    skipNumber c = skipUnsigned (if c.head? = some '-' then c.next else c) := rfl

theorem atDigit_eq_false {rest : List UInt8} (h : ∀ b ∈ rest.head?, digit? b = none) (p : Position) :
    (Cursor.mk rest p).atDigit = false := by
  cases rest with
  | nil => rfl
  | cons b more =>
      change (digit? b).isSome = false
      rw [h b rfl]
      rfl

/-- A number without sign is skipped with all its parts. -/
theorem skipUnsigned_text {whole fraction exponent rest : List UInt8} (hwhole : WholeText whole)
    (hfraction : FractionText fraction) (hexponent : ExponentText exponent) (hrest : Ends rest)
    (p : Position) :
    ∃ q, skipUnsigned ⟨whole ++ (fraction ++ (exponent ++ rest)), p⟩ = .ok ((), ⟨rest, q⟩) := by
  have hfirst := hfraction.first hexponent hrest
  cases hwhole with
  | zero =>
      obtain ⟨q, hskip⟩ := skipFraction_text hfraction hexponent hrest (p.after 0x30)
      have hnext := atDigit_eq_false hfirst (p.after 0x30)
      refine ⟨q, ?_⟩
      change (if (Cursor.mk (fraction ++ (exponent ++ rest)) (p.after 0x30)).atDigit then _
        else skipFraction _) = _
      rw [hnext]
      exact hskip
  | @digits b ds hzero hds =>
      obtain ⟨q, hdigits⟩ := skipDigits_digits hds.2 hfirst p
      obtain ⟨q', hskip⟩ := skipFraction_text hfraction hexponent hrest q
      have hat := hds.atDigit (fraction ++ (exponent ++ rest)) p
      have hhead : (Cursor.mk (b :: ds ++ (fraction ++ (exponent ++ rest))) p).head? ≠ some '0' := by
        rw [List.cons_append, Cursor.head?_cons, ne_eq, Option.some.injEq, ofNat_toNat_eq_iff]
        exact fun heq => hzero (UInt8.toNat_inj.1 heq)
      refine ⟨q', ?_⟩
      unfold skipUnsigned
      rw [hat, if_neg hhead, hdigits]
      exact hskip

/-- The whole part of a number consists of digits. -/
theorem WholeText.isDigits {whole : List UInt8} (h : WholeText whole) : Digits whole := by
  cases h with
  | zero => exact ⟨List.cons_ne_nil 0x30 [], List.forall_mem_singleton.2 rfl⟩
  | digits _ h => exact h

/-- A number is passed over. -/
theorem skipNumber_text {t rest : List UInt8} (h : NumberText t) (hrest : Ends rest) (p : Position) :
    ∃ q, skipNumber ⟨t ++ rest, p⟩ = .ok ((), ⟨rest, q⟩) := by
  cases h with
  | @mk sign whole fraction exponent hsign hwhole hfraction hexponent =>
  simp only [List.append_assoc]
  rcases hsign with rfl | rfl
  · obtain ⟨q, hskip⟩ := skipUnsigned_text hwhole hfraction hexponent hrest p
    have hminus := hwhole.isDigits.head?_ne (c := '-') (.inl (by decide))
      (fraction ++ (exponent ++ rest)) p
    refine ⟨q, ?_⟩
    rw [List.nil_append, skipNumber_eq, if_neg hminus]
    exact hskip
  · obtain ⟨q, hskip⟩ := skipUnsigned_text hwhole hfraction hexponent hrest (p.after 0x2D)
    exact ⟨q, hskip⟩

/-! ## The walk through open brackets -/

/-- A walk goes on after a step that brings it nearer to its end. -/
theorem skipFrom_of_step {stage stage' : Stage} {brackets brackets' : List Bracket}
    {c later : Cursor} (hstep : skipStep stage brackets c = .ok (some (stage', brackets'), later))
    (hweight : weight stage' later < weight stage c) :
    skipFrom stage brackets c = skipFrom stage' brackets' later := by
  rw [skipFrom]
  simp only [hstep, if_pos hweight]

/-- The walk comes from before a text to after it, inside any brackets. -/
def Passed (t : List UInt8) : Prop :=
  ∀ brackets (gap : Gap) rest p, Ends rest → ∃ q,
    skipFrom .element brackets ⟨gap.bytes ++ (t ++ rest), p⟩ =
      skipFrom .separator brackets ⟨rest, q⟩

/-- A value that is neither list nor object is passed in one step. -/
theorem passed_of_skipScalar {b : UInt8} {more : List UInt8} (hblank : ¬ Cursor.IsBlank b)
    (hopener : Bracket.ofOpener? (Char.ofNat b.toNat) = none)
    (hskip : ∀ rest p, Ends rest →
      ∃ q, skipScalar ⟨b :: more ++ rest, p⟩ = .ok ((), ⟨rest, q⟩)) : Passed (b :: more) := by
  intro brackets gap rest p hrest
  obtain ⟨q, hblanks⟩ := Cursor.skipBlanks_gap gap hblank (more ++ rest) p
  obtain ⟨q', hscalar⟩ := hskip rest q hrest
  rw [List.cons_append] at hscalar ⊢
  refine ⟨q', skipFrom_of_step ?_ ?_⟩
  · unfold skipStep
    simp only [hblanks, Cursor.head?_cons, Option.bind_some, hopener, Reader.map, hscalar]
  · simp [weight]
    omega

/-- An opening bracket is passed. -/
theorem skipFrom_open {b : UInt8} {bracket : Bracket} (hblank : ¬ Cursor.IsBlank b)
    (hopener : Bracket.ofOpener? (Char.ofNat b.toNat) = some bracket) (brackets : List Bracket)
    (gap : Gap) (rest : List UInt8) (p : Position) :
    ∃ q, skipFrom .element brackets ⟨gap.bytes ++ b :: rest, p⟩ =
      skipFrom .opened (bracket :: brackets) ⟨rest, q⟩ := by
  obtain ⟨q, hblanks⟩ := Cursor.skipBlanks_gap gap hblank rest p
  refine ⟨q.after b, skipFrom_of_step ?_ ?_⟩
  · unfold skipStep
    simp only [hblanks, Cursor.head?_cons, Option.bind_some, hopener, Cursor.next_cons]
  · simp [weight]
    omega

/-- The stage at which the first or a later element is looked for. -/
def stageOf (first : Bool) : Stage := if first then .opened else .separator

/-- A closing bracket is passed. -/
theorem skipFrom_close {b : UInt8} {bracket : Bracket} (hblank : ¬ Cursor.IsBlank b)
    (hcloser : Char.ofNat b.toNat = bracket.closer) (first : Bool) (brackets : List Bracket)
    (gap : Gap) (rest : List UInt8) (p : Position) :
    ∃ q, skipFrom (stageOf first) (bracket :: brackets) ⟨gap.bytes ++ b :: rest, p⟩ =
      skipFrom .separator brackets ⟨rest, q⟩ := by
  obtain ⟨q, hblanks⟩ := Cursor.skipBlanks_gap gap hblank rest p
  refine ⟨q.after b, skipFrom_of_step ?_ ?_⟩
  · cases first <;> simp [skipStep, stageOf, hblanks, hcloser]
  · cases first <;> simp [weight, stageOf] <;> omega

/-- What stands before the value of an element is passed: the comma, unless it is the first one, and
the key. -/
theorem skipFrom_element (bracket : Bracket) {b : UInt8} {tail value : List UInt8}
    (hblank : ¬ Cursor.IsBlank b) (hcloser : Char.ofNat b.toNat ≠ bracket.closer)
    (hkey : ∀ (gap : Gap) p, ∃ (gap' : Gap) (q : Position),
      skipKey bracket ⟨gap.bytes ++ b :: tail, p⟩ = .ok ((), ⟨gap'.bytes ++ value, q⟩) ∧
        (gap'.bytes ++ value).length ≤ (gap.bytes ++ b :: tail).length)
    (first : Bool) (brackets : List Bracket) (gap before : Gap) (p : Position) :
    ∃ (gap' : Gap) (q : Position), skipFrom (stageOf first) (bracket :: brackets)
        ⟨gap.bytes ++ (separator first ++ (before.bytes ++ b :: tail)), p⟩ =
      skipFrom .element (bracket :: brackets) ⟨gap'.bytes ++ value, q⟩ := by
  have hcomma : Char.ofNat 44 ≠ bracket.closer := by
    cases bracket <;> decide
  cases first with
  | true =>
      obtain ⟨q, hblanks⟩ := Cursor.skipBlanks_gap (gap.append before) hblank tail p
      obtain ⟨gap', q', hskip, hroom⟩ := hkey {} q
      rw [List.nil_append] at hskip hroom
      have hshape : gap.bytes ++ (separator true ++ (before.bytes ++ b :: tail)) =
          (gap.append before).bytes ++ b :: tail := by
        simp [separator, Gap.append]
      rw [hshape]
      refine ⟨gap', q', skipFrom_of_step ?_ ?_⟩
      · simp [skipStep, stageOf, hblanks, hcloser, Reader.map, hskip]
      · simp [weight, stageOf] at hroom ⊢
        omega
  | false =>
      obtain ⟨q, hblanks⟩ :=
        Cursor.skipBlanks_gap gap (b := 0x2C) (by decide) (before.bytes ++ b :: tail) p
      obtain ⟨gap', q', hskip, hroom⟩ := hkey before (q.after 0x2C)
      refine ⟨gap', q', skipFrom_of_step ?_ ?_⟩
      · simp [skipStep, stageOf, separator, hblanks, hcomma, Reader.map, hskip]
      · simp [weight, stageOf, separator] at hroom ⊢
        omega

/-! ## Lists and objects -/

/-- The items of a list are passed with its closing bracket. -/
theorem skipFrom_items {items : List ItemText} (hopens : ∀ x ∈ items, ValueText x.text)
    (hpassed : ∀ x ∈ items, Passed x.text) (first : Bool) (brackets : List Bracket) (gap : Gap)
    (rest : List UInt8) (p : Position) :
    ∃ q, skipFrom (stageOf first) (.list :: brackets)
        ⟨gap.bytes ++ (itemsText first items ++ 0x5D :: rest), p⟩ =
      skipFrom .separator brackets ⟨rest, q⟩ := by
  induction items generalizing first gap p with
  | nil => exact skipFrom_close (by decide) (by decide) first brackets gap rest p
  | cons x more ih =>
      rw [List.forall_mem_cons] at hopens hpassed
      obtain ⟨b, tail, htext, hblank, hcloser⟩ := hopens.1.opens
      let later := itemsText false more ++ 0x5D :: rest
      have hshape : itemsText first (x :: more) ++ 0x5D :: rest =
          separator first ++ (x.before.bytes ++ b :: (tail ++ (x.after.bytes ++ later))) := by
        simp [itemsText, ItemText.bytes, htext, later]
      have hne : Char.ofNat b.toNat ≠ Bracket.list.closer := by
        rw [ne_eq, ofNat_toNat_eq_iff]
        exact fun heq => hcloser (UInt8.toNat_inj.1 heq)
      obtain ⟨gap', q, hhead⟩ := skipFrom_element .list hblank hne
        (fun gap p => ⟨gap, p, rfl, Nat.le_refl _⟩) first brackets gap x.before p
      obtain ⟨q', hvalue⟩ := hpassed.1 (.list :: brackets) gap' (x.after.bytes ++ later) q
        ((ends_itemsText more rest).gap x.after)
      obtain ⟨q'', hmore⟩ := ih hopens.2 hpassed.2 false x.after q'
      rw [htext, List.cons_append] at hvalue
      exact ⟨q'', by rw [hshape, hhead, hvalue]; exact hmore⟩

/-- A list whose items can be passed can be passed. -/
theorem passed_list (gap : Gap) {items : List ItemText} (hopens : ∀ x ∈ items, ValueText x.text)
    (hpassed : ∀ x ∈ items, Passed x.text) : Passed (listText gap items) := by
  intro brackets before rest p _
  obtain ⟨q, hopen⟩ := skipFrom_open (b := 0x5B) (by decide) rfl brackets before
    (gap.bytes ++ (itemsText true items ++ 0x5D :: rest)) p
  obtain ⟨q', hitems⟩ := skipFrom_items hopens hpassed true brackets gap rest q
  exact ⟨q', by rw [listText_append, hopen]; exact hitems⟩

/-- A key is passed with its colon. -/
theorem skipKey_member {m : MemberText} (hkey : LiteralText m.key) (tail : List UInt8) (gap : Gap)
    (p : Position) :
    ∃ q, skipKey .object
        ⟨gap.bytes ++ 0x22 :: (m.key ++ 0x22 :: (m.between.bytes ++ 0x3A :: tail)), p⟩ =
      .ok ((), ⟨tail, q⟩) := by
  obtain ⟨q, hblanks⟩ := Cursor.skipBlanks_gap gap (b := 0x22) (by decide)
    (m.key ++ 0x22 :: (m.between.bytes ++ 0x3A :: tail)) p
  obtain ⟨q', hliteral⟩ := skipLiteral_text hkey (m.between.bytes ++ 0x3A :: tail) (q.after 0x22)
  obtain ⟨q'', hcolon⟩ := skipColon_gap m.between tail q'
  have hquote : (Cursor.mk (0x22 :: (m.key ++ 0x22 :: (m.between.bytes ++ 0x3A :: tail))) q).head? =
      some '"' := rfl
  refine ⟨q'', ?_⟩
  simp only [skipKey, hblanks, hquote, Cursor.next_cons, hliteral]
  exact hcolon

/-- The members of an object are passed with its closing brace. -/
theorem skipFrom_members {members : List MemberText} (hkeys : ∀ m ∈ members, LiteralText m.key)
    (hpassed : ∀ m ∈ members, Passed m.value.text) (first : Bool) (brackets : List Bracket)
    (gap : Gap) (rest : List UInt8) (p : Position) :
    ∃ q, skipFrom (stageOf first) (.object :: brackets)
        ⟨gap.bytes ++ (membersText first members ++ 0x7D :: rest), p⟩ =
      skipFrom .separator brackets ⟨rest, q⟩ := by
  induction members generalizing first gap p with
  | nil => exact skipFrom_close (by decide) (by decide) first brackets gap rest p
  | cons m more ih =>
      rw [List.forall_mem_cons] at hkeys hpassed
      let later := membersText false more ++ 0x7D :: rest
      let value := m.value.before.bytes ++ (m.value.text ++ (m.value.after.bytes ++ later))
      have hkey : ∀ (gap : Gap) p, ∃ (gap' : Gap) (q : Position), skipKey .object
          ⟨gap.bytes ++ 0x22 :: (m.key ++ 0x22 :: (m.between.bytes ++ 0x3A :: value)), p⟩ =
            .ok ((), ⟨gap'.bytes ++ value, q⟩) ∧ (gap'.bytes ++ value).length ≤
              (gap.bytes ++ 0x22 :: (m.key ++ 0x22 :: (m.between.bytes ++ 0x3A :: value))).length := by
        intro gap p
        obtain ⟨q, hskip⟩ := skipKey_member hkeys.1 value gap p
        refine ⟨{}, q, hskip, ?_⟩
        simp
        omega
      obtain ⟨gap', q, hhead⟩ := skipFrom_element .object (b := 0x22) (by decide)
        (by decide) hkey first brackets gap m.before p
      obtain ⟨q', hvalue⟩ := hpassed.1 (.object :: brackets) (gap'.append m.value.before)
        (m.value.after.bytes ++ later) q ((ends_membersText more rest).gap m.value.after)
      obtain ⟨q'', hmore⟩ := ih hkeys.2 hpassed.2 false m.value.after q'
      have hgaps : gap'.bytes ++ value =
          (gap'.append m.value.before).bytes ++ (m.value.text ++ (m.value.after.bytes ++ later)) := by
        simp [Gap.append, value]
      exact ⟨q'', by rw [membersText_cons, hhead, hgaps, hvalue]; exact hmore⟩

/-- An object whose values can be passed can be passed. -/
theorem passed_object (gap : Gap) {members : List MemberText}
    (hkeys : ∀ m ∈ members, LiteralText m.key) (hpassed : ∀ m ∈ members, Passed m.value.text) :
    Passed (objectText gap members) := by
  intro brackets before rest p _
  obtain ⟨q, hopen⟩ := skipFrom_open (b := 0x7B) (by decide) rfl brackets before
    (gap.bytes ++ (membersText true members ++ 0x7D :: rest)) p
  obtain ⟨q', hmembers⟩ := skipFrom_members hkeys hpassed true brackets gap rest q
  exact ⟨q', by rw [objectText_append, hopen]; exact hmembers⟩

/-! ## Values -/

/-- A number begins with no letter, quote or bracket. -/
theorem number_char {b : UInt8} (hb : b = 0x2D ∨ (digit? b).isSome) {c : Char} (hminus : c ≠ '-')
    (hc : c.toNat < 48 ∨ 57 < c.toNat) : Char.ofNat b.toNat ≠ c := by
  rcases hb with rfl | hb
  · exact hminus.symm
  · exact digit_char hb hc

/-- A byte that starts a number starts nothing else. -/
theorem skipScalar_number {b : UInt8} {more : List UInt8} (hb : b = 0x2D ∨ (digit? b).isSome)
    (p : Position) : skipScalar ⟨b :: more, p⟩ = skipNumber ⟨b :: more, p⟩ := by
  have hat : Char.ofNat b.toNat = '-' ∨ (Cursor.mk (b :: more) p).atDigit = true := by
    rcases hb with rfl | hb
    · exact .inl rfl
    · exact .inr hb
  unfold skipScalar
  rw [Cursor.head?_cons]
  split
  · next h => exact absurd (Option.some.inj h) (number_char hb (by decide) (.inr (by decide)))
  · next h => exact absurd (Option.some.inj h) (number_char hb (by decide) (.inr (by decide)))
  · next h => exact absurd (Option.some.inj h) (number_char hb (by decide) (.inr (by decide)))
  · next h => exact absurd (Option.some.inj h) (number_char hb (by decide) (.inl (by decide)))
  · next h =>
      obtain rfl := Option.some.inj h
      exact if_pos hat
  · contradiction

/-- A byte that starts a number opens no bracket. -/
theorem ofOpener?_number {b : UInt8} (hb : b = 0x2D ∨ (digit? b).isSome) :
    Bracket.ofOpener? (Char.ofNat b.toNat) = none := by
  unfold Bracket.ofOpener?
  split
  · next h => exact absurd h (number_char hb (by decide) (.inr (by decide)))
  · next h => exact absurd h (number_char hb (by decide) (.inr (by decide)))
  · rfl

/-- Every value can be passed, by induction on its text. -/
theorem ValueText.passed {t : List UInt8} (h : ValueText t) : Passed t := by
  induction h with
  | null => exact passed_of_skipScalar (by decide) rfl fun rest p _ => ⟨_, rfl⟩
  | true => exact passed_of_skipScalar (by decide) rfl fun rest p _ => ⟨_, rfl⟩
  | false => exact passed_of_skipScalar (by decide) rfl fun rest p _ => ⟨_, rfl⟩
  | number h =>
      obtain ⟨b, more, rfl, hb⟩ := h.exists_first
      have hblank : ¬ Cursor.IsBlank b := by
        rcases hb with rfl | hb
        · decide
        · exact not_isBlank_of_digit hb
      refine passed_of_skipScalar hblank (ofOpener?_number hb) fun rest p hrest => ?_
      obtain ⟨q, hskip⟩ := skipNumber_text h hrest p
      exact ⟨q, (skipScalar_number hb p).trans hskip⟩
  | @string body h =>
      refine passed_of_skipScalar (by decide) rfl fun rest p _ => ?_
      obtain ⟨q, hskip⟩ := skipLiteral_text h rest (p.after 0x22)
      refine ⟨q, ?_⟩
      rw [List.cons_append, List.append_assoc]
      exact hskip
  | list gap h ih => exact passed_list gap h ih
  | object gap hkeys _ ih => exact passed_object gap hkeys ih

/-- The text of a value is passed over. -/
theorem skipValue_text {t rest : List UInt8} (h : ValueText t) (hrest : Ends rest) (gap : Gap)
    (p : Position) : ∃ q, skipValue ⟨gap.bytes ++ (t ++ rest), p⟩ = .ok ((), ⟨rest, q⟩) := by
  obtain ⟨q, hpassed⟩ := h.passed [] gap rest p hrest
  refine ⟨q, ?_⟩
  unfold skipValue
  rw [hpassed, skipFrom]
  rfl

/-- Every value is skipped exactly. -/
theorem ValueText.reads {t : List UInt8} (h : ValueText t) : Reads skipValue t () where
  opens := h.opens
  run gap _ p hrest := skipValue_text h hrest gap p

/-! ## Compact texts -/

/-- What is written of a value is a value of the grammar. -/
theorem Plain.valueText {room : Nat} {j : Json} (h : Plain room j) : ValueText (bytes j) := by
  induction h with
  | scalar _ h =>
      cases h with
      | null => exact bytes_null ▸ .null
      | boolean b =>
          cases b with
          | true => exact bytes_true ▸ .true
          | false => exact bytes_false ▸ .false
      | integer => exact .number (numberText_integer _)
      | string s => exact bytes_string s ▸ .string (writes_literalBytes s).literalText
  | @array room items _ ih =>
      rw [bytes_array]
      refine .list {} fun x hx => ?_
      obtain ⟨j, hj, rfl⟩ := List.mem_map.1 hx
      exact ih j hj
  | @object room members _ ih =>
      rw [bytes_object, texts_compactMembers]
      refine .object {} (fun x hx => ?_) fun x hx => ?_
      · obtain ⟨m, -, rfl⟩ := List.mem_map.1 hx
        exact (writes_literalBytes m.1).literalText
      · obtain ⟨m, hm, rfl⟩ := List.mem_map.1 hx
        exact ih m hm

/-- A value without fractions is passed over. -/
theorem reads_skipValue {room : Nat} {j : Json} (h : Plain room j) :
    Reads skipValue (bytes j) () :=
  h.valueText.reads

end Stevedore.Json
