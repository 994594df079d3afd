/-!
# Spans of time

Main definition: `Duration`, whole seconds of 64 bits and nanoseconds below one second.
-/

namespace Stevedore

/-- A span of time. -/
structure Duration where
  seconds : UInt64
  nanos : Nat := 0
  nanos_lt : nanos < 1000000000 := by decide
deriving DecidableEq, Repr

namespace Duration

/-- A span of whole seconds. -/
def ofSeconds (s : UInt64) : Duration := { seconds := s }

/-- A span of whole milliseconds. -/
def ofMillis (ms : UInt64) : Duration where
  seconds := ms / 1000
  nanos := (ms % 1000).toNat * 1000000
  nanos_lt := by
    have : (ms % 1000).toNat < 1000 := by
      rw [UInt64.toNat_mod]
      exact Nat.mod_lt _ (by decide)
    omega

/-- The span in nanoseconds. -/
def toNanos (d : Duration) : Nat := d.seconds.toNat * 1000000000 + d.nanos

/-- The whole milliseconds of a span. -/
def wholeMillis (d : Duration) : Nat := d.seconds.toNat * 1000 + d.nanos / 1000000

/-- The whole milliseconds of a span, at most the greatest number of 64 bits. -/
def toMillis (d : Duration) : UInt64 := UInt64.ofNat (min d.wholeMillis 18446744073709551615)

/-- The span is empty. -/
def isZero (d : Duration) : Bool := d.seconds == 0 && d.nanos == 0

end Duration

end Stevedore
