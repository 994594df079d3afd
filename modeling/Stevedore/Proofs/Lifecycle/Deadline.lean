import Stevedore.Proofs.Configuration
import Stevedore.Proofs.Duration
import Stevedore.Proofs.Lifecycle.Retry
/-!
# Waits that end too far away

The moment at which a wait is over is computed when the wait begins, after the objects of a deployment
were deleted. If the timeout is so long that this moment cannot be represented, the program crashes
there, and the removal that was made gets no answer.

Main results:

- Theorem `deadline?_eq_none_iff`: which moments cannot be represented.
- Theorem `destroy_answers`: when a removal has no answer, for every admitted configuration.
-/

namespace Stevedore

open Backend Program

/-! ## Moments that cannot be represented -/

namespace Teardown

/-- Seconds have 63 bits. -/
theorem deadline?_eq_none_iff (start : Nat) (seconds : UInt64) :
    deadline? start (.ofSeconds seconds) = none ↔
      9223372036854775808 ≤ start / 1000000000 + seconds.toNat := by
  have hlast : lastMoment = 9223372036854775807999999999 := by decide
  have hnone : deadline? start (.ofSeconds seconds) = none ↔
      ¬ start + (Duration.ofSeconds seconds).toNanos ≤ lastMoment := by
    simp [deadline?]
  rw [hnone, Duration.toNanos_ofSeconds, hlast]
  omega

end Teardown

namespace Lifecycle

/-- The removal of objects deletes the controller last, or a call fails. -/
theorem deletion_of_dismantle (handler : Handler σ) (s : σ) (id : String) :
    (∃ selector, ((dismantle id).run handler s).1 = .ok selector ∧
      ∃ name, deletion name ∈ (dismantle id).transcript handler s) ∨
    ∃ e : BackendError, ((dismantle id).run handler s).1 = .error (.error e.toError) ∧
      ∀ name, deletion name ∉ (dismantle id).transcript handler s := by
  rcases (failsFast_dismantle id).run_cases handler s with
    ⟨selector, hfull, hrun⟩ | ⟨full, selector, e, hfull, hcut, hrun⟩
  · obtain ⟨c, listed, updated, ht, -⟩ := succeeds_dismantle hfull
    exact .inl ⟨selector, hrun, nameOf id c, by simp [ht, removal]⟩
  · obtain ⟨c, listed, updated, rfl, -⟩ := succeeds_dismantle hfull
    exact .inr ⟨e, hrun, deletion_not_mem_of_cutShort hcut⟩

/-- A removal ends as its wait does if it deleted the controller, and else with the error of a call. -/
theorem destroy_ends (m : Removal) (handler : Handler σ) (s : σ) :
    (m.program.run handler s).1 = m.ending ∧
        (∃ name, deletion name ∈ m.program.transcript handler s) ∨
      ∃ e : BackendError, (m.program.run handler s).1 = .error (.error e.toError) ∧
        ∀ name, deletion name ∉ m.program.transcript handler s := by
  unfold Removal.program destroy
  rw [run_bind, transcript_bind]
  have hcases := deletion_of_dismantle handler s m.id
  generalize (dismantle m.id).run handler s = pair at hcases ⊢
  obtain ⟨result, after⟩ := pair
  rcases hcases with ⟨selector, rfl, name, hmem⟩ | ⟨e, rfl, hnone⟩
  · exact .inl ⟨m.run_wait handler selector after, name, List.mem_append_left _ hmem⟩
  · refine .inr ⟨e, rfl, ?_⟩
    rw [List.append_nil]
    exact hnone

/-- How the wait ends with a timeout of whole seconds. -/
theorem ending_eq_crash_iff {m : Removal} {seconds : UInt64}
    (htimeout : m.config.teardownTimeout = .ofSeconds seconds) :
    m.ending = .error .crash ↔
      seconds ≠ 0 ∧ 9223372036854775808 ≤ m.clock.start / 1000000000 + seconds.toNat := by
  have hzero : (Duration.ofSeconds seconds).isZero = true ↔ seconds = 0 := by
    simp [Duration.isZero, Duration.ofSeconds]
  have hends : m.Ends ↔ ¬ 9223372036854775808 ≤ m.clock.start / 1000000000 + seconds.toNat := by
    unfold Removal.Ends
    rw [htimeout, ne_eq, Teardown.deadline?_eq_none_iff]
  have hending : m.ending = .error .crash ↔
      ¬ (m.config.teardownTimeout.isZero = true ∨ m.Ends) := by
    unfold Removal.ending
    split
    · next hgood => simp [hgood]
    · next hbad => simp [hbad]
  rw [hending, hends, htimeout, hzero, not_or, not_not]

/-- The ways in which a removal with a timeout of whole seconds ends. -/
theorem answers_of_seconds {config : Config} {seconds : UInt64}
    (htimeout : config.teardownTimeout = .ofSeconds seconds)
    (clock : Clock config.pollInterval.toNanos) (handler : Handler σ) (s : σ) (id : String) :
    let deleted := ∃ name, deletion name ∈ (destroy config clock id).transcript handler s
    let outcome := ((destroy config clock id).run handler s).1
    (outcome = .error .crash ↔ deleted ∧ seconds ≠ 0 ∧
      9223372036854775808 ≤ clock.start / 1000000000 + seconds.toNat) ∧
    (outcome = .ok () ∨ outcome = .error .crash ↔ deleted) ∧
    (¬ deleted → ∃ e : BackendError, outcome = .error (.error e.toError)) := by
  intro deleted outcome
  let m : Removal := ⟨config, clock, id⟩
  have hcrash : m.ending = .error .crash ↔
      seconds ≠ 0 ∧ 9223372036854775808 ≤ clock.start / 1000000000 + seconds.toNat :=
    ending_eq_crash_iff htimeout
  rw [← hcrash]
  rcases destroy_ends m handler s with ⟨hrun, hdeleted⟩ | ⟨e, hrun, hkept⟩
  · have houtcome : outcome = m.ending := hrun
    have hdone : deleted := hdeleted
    have hends : m.ending = .ok () ∨ m.ending = .error .crash := by
      unfold Removal.ending
      split
      · exact .inl rfl
      · exact .inr rfl
    rw [houtcome]
    exact ⟨(and_iff_right hdone).symm, iff_of_true hends hdone, fun hnot => absurd hdone hnot⟩
  · have houtcome : outcome = .error (.error e.toError) := hrun
    have hnot : ¬ deleted := fun ⟨name, hmem⟩ => hkept name hmem
    rw [houtcome]
    simp [hnot]

/-- On every backend, and for every admitted configuration, a removal that deleted no controller
returns the error of a call, and one that did returns, unless its timeout ends at a moment that cannot
be represented: then it has no answer. -/
theorem destroy_answers {config : Config} (hadmitted : config.Admitted)
    (clock : Clock config.pollInterval.toNanos) (handler : Handler σ) (s : σ) (id : String) :
    let seconds := config.teardownTimeout.seconds
    let deleted := ∃ name, deletion name ∈ (destroy config clock id).transcript handler s
    let outcome := ((destroy config clock id).run handler s).1
    (outcome = .error .crash ↔ deleted ∧ seconds ≠ 0 ∧
      9223372036854775808 ≤ clock.start / 1000000000 + seconds.toNat) ∧
    (outcome = .ok () ∨ outcome = .error .crash ↔ deleted) ∧
    (¬ deleted → ∃ e : BackendError, outcome = .error (.error e.toError)) := by
  obtain ⟨seconds, _, htimeout, -⟩ := hadmitted.countsWhole
  have hseconds : config.teardownTimeout.seconds = seconds := congrArg Duration.seconds htimeout
  rw [hseconds]
  exact answers_of_seconds htimeout clock handler s id

/-- A backend with one deployment. -/
def lone : Store where
  controllers := [{ metadata := { name := some "web" } }]

/-- The longest timeout that can be given. -/
def longest : Options := { teardownTimeoutSecs := 18446744073709551615 }

/-- The longest timeout is read from the command line. -/
theorem parse_longest :
    Options.parse ["--teardown-timeout-secs=18446744073709551615"] (fun _ => none) =
      .ok longest := by
  rfl

/-- A removal with the longest timeout has deleted the deployment and crashes. -/
theorem destroy_answers_lone :
    longest.config.Admitted ∧
      ((destroy longest.config (.steady _ 0 0) "web").run Store.handle lone).1 = .error .crash := by
  have hadmitted : longest.config.Admitted := .ofOptions parse_longest
  have hdeleted : ∃ name, deletion name ∈
      (destroy longest.config (.steady _ 0 0) "web").transcript Store.handle lone :=
    ⟨"web", .tail _ (.tail _ (.tail _ (.head _)))⟩
  obtain ⟨hcrash, -, -⟩ :=
    destroy_answers hadmitted (.steady _ 0 0) Store.handle lone "web"
  exact ⟨hadmitted, hcrash.2 ⟨hdeleted, by decide, by decide⟩⟩

/-- Whoever asks for the removal is left without an answer after the objects are gone. -/
theorem no_answer_of_longest :
    (Options.parse ["--teardown-timeout-secs=18446744073709551615"] (fun _ => none)).map (·.config) =
        .ok longest.config ∧
      ((destroy longest.config (.steady _ 0 0) "web").run Store.handle lone).1 = .error .crash ∧
      ((destroy longest.config (.steady _ 0 0) "web").run Store.handle lone).2.controllers = [] := by
  exact ⟨rfl, rfl, rfl⟩

end Lifecycle

end Stevedore
