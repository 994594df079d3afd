import Stevedore.Backend.Program
import Stevedore.Config
import Stevedore.Workload
/-!
# Waiting for pods to end

After a controller is deleted its pods take a while to end. The wait lists them, and lists them
again after a pause, until there are none, the listing fails or the time is up. Neither is an error.

Main definitions:

- `Clock`: the readings of a clock during a wait.
- `Teardown.deadline?`: when the time is up, if that moment can be represented.
- `Teardown.wait`: the program that waits.
-/

namespace Stevedore

/-- The readings of a clock during a wait with a given pause, in nanoseconds: one at the start and
one after each listing. Between two listings the pause goes by, and at least the least span that the
clock tells apart. -/
structure Clock (pause : Nat) where
  start : Nat
  reading : Nat → Nat
  start_le : start ≤ reading 0
  advances : ∀ i, reading i + max pause 1 ≤ reading (i + 1)

namespace Clock

/-- The clock that advances by the pause, and by the same span during each listing. -/
def steady (pause start listing : Nat) : Clock pause where
  start := start
  reading i := start + listing + i * (max pause 1 + listing)
  start_le := by omega
  advances i := by
    rw [Nat.add_mul]
    omega

/-- From one reading to the next the clock advances. -/
theorem reading_lt (clock : Clock pause) (i : Nat) : clock.reading i < clock.reading (i + 1) := by
  have := clock.advances i
  omega

end Clock

namespace Teardown

/-- The last moment that can be represented: seconds have 63 bits. -/
def lastMoment : Nat := 9223372036854775807 * 1000000000 + 999999999

/-- The moment at which a wait that starts now is over. -/
def deadline? (start : Nat) (timeout : Duration) : Option Nat :=
  if start + timeout.toNanos ≤ lastMoment then some (start + timeout.toNanos) else none

/-- Lists the pods for the `i`-th time, and again while there are some and the time is not up. -/
def rounds (clock : Clock pause) (selector : Selector) (deadline i : Nat) : Program Unit :=
  .call (.listPods selector) fun
    | .ok (_ :: _) =>
      if clock.reading i < deadline then rounds clock selector deadline (i + 1) else .done ()
    | _ => .done ()
termination_by deadline - clock.reading i
decreasing_by
  have := clock.reading_lt i
  omega

/-- Waits until no pod is selected any more or the time is up. No time at all is no wait; a moment
too far away to be represented crashes the program. -/
def wait (clock : Clock pause) (selector : Selector) (timeout : Duration) : Program Unit :=
  if timeout.isZero then .done ()
  else
    match deadline? clock.start timeout with
    | none => .fail .crash
    | some deadline => rounds clock selector deadline 0

end Teardown

end Stevedore
