import Mathlib.Data.List.Nodup
import Stevedore.Proofs.Duration
import Stevedore.Proofs.Options.Resolution
/-!
# Flags before variables before defaults

A flag on the command line overrides the variable of its option, and a variable overrides the default.
An overridden variable is not looked at: whatever it holds, and even if no value could be read from it,
the options are the same, and so is the reason why there are none.

Main results:

- Theorem `parse_congr`: environments that differ in overridden variables only.
- Theorem `parse_update`: one overridden variable.
- Theorem `parse_precedence`: where the value of every option comes from, and what does not matter.
-/

namespace Stevedore.Options

variable {args : List String} {env : Environment} {flag : Flag}

/-! ## Variables that do not matter -/

/-- An option can be told from its variable. -/
theorem variableName_injective : Function.Injective Flag.variableName := by
  have hnodup : (Flag.all.map Flag.variableName).Nodup := by
    decide
  intro flag other h
  exact List.inj_on_of_nodup_map hnodup (mem_all flag) (mem_all other) h

/-- An option was given exactly if its flag stands on the command line. -/
theorem isGiven_iff_has {line : List (Flag × String)} {given : Given} (hspells : Spells args line)
    (henters : enterAll {} line = .ok given) (flag : Flag) :
    IsGiven args flag ↔ given.has flag = true := by
  rw [has_iff henters, hspells.isGiven_iff]

/-- What has been read of a command line does not depend on the environment, and after that only the
variables of options that were not given are looked at. -/
theorem parse_congr {env' : Environment}
    (h : ∀ flag, ¬ IsGiven args flag → env flag.variableName = env' flag.variableName) :
    parse args env = parse args env' := by
  unfold parse
  cases hread : ({} : State).readAll args with
  | error e => rfl
  | ok s =>
      dsimp only
      cases hsettle : s.settle with
      | error e => rfl
      | ok given =>
          obtain ⟨line, hspells, henters⟩ := readAll_settle_iff.1 ⟨s, hread, hsettle⟩
          have hsetting : ∀ flag ∈ Flag.all, setting env given flag = setting env' given flag := by
            intro flag _
            unfold setting
            split
            · rfl
            · next hunset => rw [h flag (mt (isGiven_iff_has hspells henters flag).1 hunset)]
          have hvariables : fromEnvironment env given Flag.all =
              fromEnvironment env' given Flag.all := by
            rw [fromEnvironment_eq_enterAll nodup_all, fromEnvironment_eq_enterAll nodup_all,
              List.flatMap_congr hsetting]
          dsimp only
          rw [hvariables]

/-- The variable of an option whose flag is given may hold anything, or not be set. -/
theorem parse_update (hgiven : IsGiven args flag) (value : Option String) :
    parse args (Function.update env flag.variableName value) = parse args env := by
  refine parse_congr fun other hother => ?_
  have hne : other ≠ flag := by
    rintro rfl
    exact hother hgiven
  exact Function.update_of_ne (variableName_injective.ne hne) value env

/-! ## Where values come from -/

/-- A command line that has options spells flags with texts, in one way only. It has options in an
environment exactly if every option has a value: that of its flag if the flag is given, for public
addresses those of all its occurrences in order; otherwise that of its own variable if it is set;
otherwise the default. The configuration takes the namespace, the version and the two spans from the
options as they are. Two environments that agree on the variables of the options that are not given as
flags lead to the same options or to the same refusal; so the variable of an option that is given can
hold anything. -/
theorem parse_precedence (args : List String) (env : Environment) :
    (∀ o, parse args env = .ok o → ∃ line, Spells args line) ∧
    (∀ line, Spells args line → ∀ o, parse args env = .ok o ↔ ∀ flag,
      (IsGiven args flag → o.Shows flag (textsOf line flag)) ∧
      (¬ IsGiven args flag → o.Shows flag (env flag.variableName).toList)) ∧
    (∀ o : Options, o.config.clusterNamespace = o.clusterNamespace ∧
      o.config.version = o.adapterVersion ∧
      o.config.teardownTimeout.toNanos = o.teardownTimeoutSecs.toNat * 1000000000 ∧
      o.config.pollInterval.toNanos = o.pollIntervalMillis.toNat * 1000000) ∧
    (∀ env' : Environment,
      (∀ flag, ¬ IsGiven args flag → env flag.variableName = env' flag.variableName) →
        parse args env = parse args env') ∧
    ∀ flag, IsGiven args flag → ∀ value,
      parse args (Function.update env flag.variableName value) = parse args env := by
  refine ⟨fun o h => ?_, fun line hspells o => ?_, fun o => ⟨rfl, rfl, ?_, ?_⟩,
    fun _ => parse_congr, fun _ => parse_update⟩
  · obtain ⟨line, hspells, -⟩ := parse_eq_ok_iff.1 h
    exact ⟨line, hspells⟩
  · rw [parse_eq_ok_iff_of_spells hspells]
    refine forall_congr' fun flag => ?_
    rw [hspells.isGiven_iff]
    by_cases hmem : flag ∈ line.map Prod.fst
    · simp only [textsFor_of_mem hmem, hmem, not_true, forall_const, IsEmpty.forall_iff, and_true]
    · simp only [textsFor_of_not_mem hmem, hmem, not_false_iff, forall_const, IsEmpty.forall_iff,
        true_and]
  · exact Duration.toNanos_ofSeconds o.teardownTimeoutSecs
  · exact Duration.toNanos_ofMillis o.pollIntervalMillis

/-- A timeout, and public addresses in two places. -/
def overridingArguments : List String :=
  ["--teardown-timeout-secs=3", "--public-ips", "10.0.0.1", "--public-ips=10.0.0.2,10.0.0.3"]

/-- Variables of which the first two are overridden. The timeout is not a number, and the version is
empty. -/
def overriddenVariables : Environment := fun name =>
  if name = "TEARDOWN_TIMEOUT_SECS" then some "soon"
  else if name = "SERVICE_PUBLIC_IPS" then some "192.0.2.1"
  else if name = "ADAPTER_VERSION" then some ""
  else none

/-- Options that are given override variables, and a list of addresses is made of the arguments
alone. -/
theorem parse_precedence_overriding :
    Spells overridingArguments [(.teardownTimeout, "3"), (.publicIps, "10.0.0.1"),
        (.publicIps, "10.0.0.2,10.0.0.3")] ∧
      IsGiven overridingArguments .teardownTimeout ∧ IsGiven overridingArguments .publicIps ∧
      parse overridingArguments overriddenVariables =
        .ok { publicIps := ["10.0.0.1", "10.0.0.2", "10.0.0.3"], adapterVersion := "",
              teardownTimeoutSecs := 3 } ∧
      parse overridingArguments (fun name => if name = "ADAPTER_VERSION" then some "" else none) =
        parse overridingArguments overriddenVariables ∧
      parse overridingArguments
          (Function.update overriddenVariables "SERVICE_PUBLIC_IPS" none) =
        parse overridingArguments overriddenVariables := by
  obtain ⟨-, hok, -, hcongr, hupdate⟩ := parse_precedence overridingArguments overriddenVariables
  have hspells : Spells overridingArguments [(.teardownTimeout, "3"), (.publicIps, "10.0.0.1"),
      (.publicIps, "10.0.0.2,10.0.0.3")] :=
    .attached .teardownTimeout "3" (.separate .publicIps (.inr (by decide))
      (.attached .publicIps "10.0.0.2,10.0.0.3" .nil))
  have htimeout : IsGiven overridingArguments .teardownTimeout :=
    ⟨"--teardown-timeout-secs=3", by decide, .inr ⟨"3", by decide⟩⟩
  have hips : IsGiven overridingArguments .publicIps :=
    ⟨"--public-ips", by decide, .inl (by decide)⟩
  refine ⟨hspells, htimeout, hips, (hok _ hspells _).2 fun flag => ?_, ?_,
    hupdate .publicIps hips none⟩
  · cases flag with
    | teardownTimeout => exact ⟨fun _ => rfl, fun hnot => absurd htimeout hnot⟩
    | publicIps => exact ⟨fun _ => rfl, fun hnot => absurd hips hnot⟩
    | _ => exact ⟨fun h => absurd ((hspells.isGiven_iff _).1 h) (by decide), fun _ => rfl⟩
  · refine (hcongr _ fun flag hflag => ?_).symm
    cases flag with
    | teardownTimeout => exact absurd htimeout hflag
    | publicIps => exact absurd hips hflag
    | _ => rfl

end Stevedore.Options
