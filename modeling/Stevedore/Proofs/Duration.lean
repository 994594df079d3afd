import Mathlib.Algebra.Group.Nat.Defs
import Stevedore.Duration
/-!
# Spans of time in nanoseconds

A span is known by its nanoseconds, and so are the spans of whole seconds and of whole milliseconds.

Main results:

- Theorem `toNanos_injective`: spans of as many nanoseconds are equal.
- Theorems `toNat_seconds` and `toNat_toMillis`: the whole seconds and milliseconds of a span.
-/

namespace Stevedore.Duration

/-- A span can be told from its length in nanoseconds. -/
theorem toNanos_injective : Function.Injective toNanos := by
  intro d e h
  unfold toNanos at h
  have hd := d.nanos_lt
  have he := e.nanos_lt
  have hseconds : d.seconds = e.seconds := UInt64.toNat_inj.1 (by omega)
  have hnanos : d.nanos = e.nanos := by
    rw [hseconds] at h
    exact Nat.add_left_cancel h
  obtain ⟨seconds, nanos, hlt⟩ := d
  obtain ⟨seconds', nanos', hlt'⟩ := e
  obtain rfl : seconds = seconds' := hseconds
  obtain rfl : nanos = nanos' := hnanos
  rfl

/-- A span is empty exactly if it has no nanosecond. -/
theorem isZero_iff (d : Duration) : d.isZero ↔ d.toNanos = 0 := by
  have hseconds : d.seconds = 0 ↔ d.seconds.toNat = 0 := by
    rw [← UInt64.toNat_inj]
    rfl
  unfold isZero toNanos
  rw [Bool.and_eq_true, beq_iff_eq, beq_iff_eq, hseconds]
  omega

theorem toNanos_ofSeconds (seconds : UInt64) :
    (ofSeconds seconds).toNanos = seconds.toNat * 1000000000 :=
  Nat.add_zero _

theorem toNanos_ofMillis (millis : UInt64) : (ofMillis millis).toNanos = millis.toNat * 1000000 := by
  have hseconds : (millis / 1000).toNat = millis.toNat / 1000 := UInt64.toNat_div millis 1000
  have hrest : (millis % 1000).toNat = millis.toNat % 1000 := UInt64.toNat_mod millis 1000
  change (millis / 1000).toNat * 1000000000 + (millis % 1000).toNat * 1000000 = _
  rw [hseconds, hrest]
  omega

/-- The whole seconds of a span. -/
theorem toNat_seconds (d : Duration) : d.seconds.toNat = d.toNanos / 1000000000 := by
  have hlt := d.nanos_lt
  unfold toNanos
  omega

/-- The whole milliseconds of a span, as far as 64 bits go. -/
theorem toNat_toMillis (d : Duration) :
    d.toMillis.toNat = min (d.toNanos / 1000000) (2 ^ 64 - 1) := by
  have hmillis : d.wholeMillis = d.toNanos / 1000000 := by
    unfold wholeMillis toNanos
    omega
  unfold toMillis
  rw [hmillis, UInt64.toNat_ofNat']
  omega

/-- A span of milliseconds has as many of them as it was made of. -/
theorem toMillis_ofMillis (millis : UInt64) : (ofMillis millis).toMillis = millis := by
  have hlt : millis.toNat < 2 ^ 64 := millis.toNat_lt
  rw [← UInt64.toNat_inj, toNat_toMillis, toNanos_ofMillis]
  omega

end Stevedore.Duration
