import Stevedore.Config
import Stevedore.Proofs.Duration
import Stevedore.Proofs.Json.Members
/-!
# Configurations from their texts

The text of a configuration counts the timeout in whole seconds and the poll interval in whole
milliseconds, and no number in it has more than 64 bits. So what is read back is the configuration with
its two spans cut off to these units. Members that are not there leave the default in their fields, and
the order of those that are there does not matter.

Main definitions:

- `Config.rounded`: the configuration with its two spans in whole units.
- `Config.entries`: the members of the text of a configuration.
- `Config.only`: the configuration with the default in all fields but some.

Main results:

- Theorem `Config.rounded_eq_self_iff`: the configurations that lose nothing.
- Theorem `Config.reads_members`: some members of the text, in any order.
- Theorem `Config.decode_text`: what is read back, what is lost, and what is written again.
-/

namespace Stevedore

open Json (Reads)
open Json.Record (Enters enters_optional)

/-! ## Configurations in whole units -/

namespace Config

/-- The configuration with the timeout in whole seconds and the poll interval in whole milliseconds. -/
def rounded (c : Config) : Config where
  clusterNamespace := c.clusterNamespace
  version := c.version
  externalIps := c.externalIps
  teardownTimeout := .ofSeconds c.teardownTimeout.seconds
  pollInterval := .ofMillis c.pollInterval.toMillis

/-- The timeout is cut off to whole seconds. -/
theorem toNanos_rounded_timeout (c : Config) : c.rounded.teardownTimeout.toNanos =
    c.teardownTimeout.toNanos / 1000000000 * 1000000000 := by
  rw [rounded, Duration.toNanos_ofSeconds, Duration.toNat_seconds]

/-- The poll interval is cut off to whole milliseconds, of which there are 64 bits at most. -/
theorem toNanos_rounded_poll (c : Config) : c.rounded.pollInterval.toNanos =
    min (c.pollInterval.toNanos / 1000000) (2 ^ 64 - 1) * 1000000 := by
  rw [rounded, Duration.toNanos_ofMillis, Duration.toNat_toMillis]

/-- The configurations that are in whole units already. -/
theorem rounded_eq_self_iff (c : Config) : c.rounded = c ↔
    1000000000 ∣ c.teardownTimeout.toNanos ∧ 1000000 ∣ c.pollInterval.toNanos ∧
      c.pollInterval.toNanos ≤ (2 ^ 64 - 1) * 1000000 := by
  have hspans : c.rounded = c ↔ c.rounded.teardownTimeout.toNanos = c.teardownTimeout.toNanos ∧
      c.rounded.pollInterval.toNanos = c.pollInterval.toNanos := by
    constructor
    · intro h
      rw [h]
      exact ⟨rfl, rfl⟩
    · rintro ⟨htimeout, hpoll⟩
      have htimeout' := Duration.toNanos_injective htimeout
      have hpoll' := Duration.toNanos_injective hpoll
      exact congrArg₂ (c.withTeardown · ·) htimeout' hpoll'
  rw [hspans, toNanos_rounded_timeout, toNanos_rounded_poll]
  omega

/-! ## Members of the text -/

/-- The members of the text of a configuration. -/
def entries (c : Config) : List (String × Json) := [
  ("namespace", .string c.clusterNamespace),
  ("version", .string c.version),
  ("external_ips", .list .string c.externalIps),
  ("teardown_timeout", .integer c.teardownTimeout.seconds.toNat),
  ("teardown_poll_interval", .integer c.pollInterval.toMillis.toNat)]

theorem toJson_eq (c : Config) : c.toJson = .object c.entries := rfl

theorem map_fst_entries (c : Config) : c.entries.map (·.1) = record.members.map (·.key) := rfl

/-- Another configuration with the same whole units has the same text. -/
theorem toJson_rounded (c : Config) : c.rounded.toJson = c.toJson := by
  have hpoll : c.rounded.pollInterval.toMillis = c.pollInterval.toMillis :=
    Duration.toMillis_ofMillis _
  unfold toJson
  rw [hpoll]
  rfl

/-- The configuration with the default in all fields but those of some members. -/
def only (c : Config) (keys : List String) : Config :=
  let default : Config := {}
  { clusterNamespace :=
      if "namespace" ∈ keys then c.clusterNamespace else default.clusterNamespace
    version := if "version" ∈ keys then c.version else default.version
    externalIps := if "external_ips" ∈ keys then c.externalIps else default.externalIps
    teardownTimeout :=
      if "teardown_timeout" ∈ keys then c.teardownTimeout else default.teardownTimeout
    pollInterval :=
      if "teardown_poll_interval" ∈ keys then c.pollInterval else default.pollInterval }

/-- Which keys are left in, and not their order, says what is left of a configuration. -/
theorem only_congr (c : Config) {keys others : List String} (h : ∀ key, key ∈ keys ↔ key ∈ others) :
    c.only keys = c.only others := by
  simp only [only, h]

/-- With all keys nothing is lost. -/
theorem only_keys (c : Config) : c.only (record.members.map (·.key)) = c := by
  simp [only, record, Json.Member.optional]

/-- A member enters the field that it stands for. -/
theorem enters_of_mem_entries {c : Config} {m : String × Json} (hm : m ∈ c.entries)
    (seen : List String) :
    Enters record m.1 (Json.bytes m.2) (c.rounded.only seen) (c.rounded.only (m.1 :: seen)) := by
  simp only [entries, List.mem_cons, List.not_mem_nil, or_false] at hm
  rcases hm with rfl | rfl | rfl | rfl | rfl
  · exact enters_optional rfl (Json.reads_string _) (by simp [only, rounded])
  · exact enters_optional rfl (Json.reads_string _) (by simp [only, rounded])
  · exact enters_optional rfl (Json.readsBack_string.list _).1 (by simp [only, rounded])
  · exact enters_optional rfl (Json.reads_uint64 _) (by simp [only, rounded])
  · exact enters_optional rfl (Json.reads_uint64 _) (by simp [only, rounded])

/-- Some members of the text, in any order. -/
theorem reads_members {c : Config} {members : List (String × Json)} (hmembers : members ⊆ c.entries)
    (hdistinct : (members.map (·.1)).Nodup) :
    Reads record.read (Json.bytes (.object members)) (c.rounded.only (members.map (·.1))) := by
  have hreads : Reads record.read (Json.bytes (.object members))
      (c.rounded.only (members.map (·.1)).reverse) :=
    Json.Record.reads_of_states (fun m hm seen => enters_of_mem_entries (hmembers hm) seen)
      hdistinct (by simp [only, record]) (by simp [record, Json.Member.optional])
  rwa [only_congr c.rounded fun key => List.mem_reverse] at hreads

theorem nodup_keys (c : Config) : (c.entries.map (·.1)).Nodup := by
  simp [entries]

/-- The text of a configuration is read back with the timeout cut off to seconds and the poll interval to
milliseconds, of which there are no more than 64 bits can count; nothing else is lost. So what is read
back is the configuration itself exactly if both spans are in these units, and in any case it has the
same text. Members that are left out, whichever they are, leave the default in their fields. -/
theorem decode_text (c : Config) :
    Json.decodeString record.read c.toJson.render = .ok c.rounded ∧
    (c.rounded.clusterNamespace = c.clusterNamespace ∧ c.rounded.version = c.version ∧
      c.rounded.externalIps = c.externalIps ∧
      c.rounded.teardownTimeout.toNanos = c.teardownTimeout.toNanos / 1000000000 * 1000000000 ∧
      c.rounded.pollInterval.toNanos =
        min (c.pollInterval.toNanos / 1000000) (2 ^ 64 - 1) * 1000000) ∧
    (c.rounded = c ↔
      1000000000 ∣ c.teardownTimeout.toNanos ∧ 1000000 ∣ c.pollInterval.toNanos ∧
        c.pollInterval.toNanos ≤ (2 ^ 64 - 1) * 1000000) ∧
    c.rounded.toJson.render = c.toJson.render ∧
    c.toJson = .object c.entries ∧
    ∀ members ⊆ c.entries, (members.map (·.1)).Nodup →
      Json.decodeString record.read (Json.object members).render =
        .ok (c.rounded.only (members.map (·.1))) := by
  have hsome : ∀ members ⊆ c.entries, (members.map (·.1)).Nodup →
      Json.decodeString record.read (Json.object members).render =
        .ok (c.rounded.only (members.map (·.1))) :=
    fun members hmembers hdistinct => Json.decodeString_of_reads (reads_members hmembers hdistinct)
  have hall := hsome c.entries (List.Subset.refl _) (nodup_keys c)
  rw [map_fst_entries, only_keys] at hall
  exact ⟨hall, ⟨rfl, rfl, rfl, toNanos_rounded_timeout c, toNanos_rounded_poll c⟩,
    rounded_eq_self_iff c, congrArg Json.render (toJson_rounded c), toJson_eq c, hsome⟩

/-- A configuration with a poll interval beyond what milliseconds of 64 bits can count. -/
def oversized : Config where
  version := "1.2.3"
  externalIps := ["10.0.0.1", "10.0.0.1"]
  teardownTimeout := { seconds := 3, nanos := 700000000 }
  pollInterval := { seconds := 18446744073709551615, nanos := 999999999 }

/-- A poll interval beyond 64 bits of milliseconds is cut off to the largest one, and from a text
with two members the others are left at their defaults. -/
theorem decode_text_oversized :
    Json.decodeString record.read oversized.toJson.render = .ok oversized.rounded ∧
    oversized.rounded.pollInterval.toNanos = 18446744073709551615000000 ∧
    Json.decodeString record.read "\x7b\"teardown_timeout\":3,\"version\":\"1.2.3\"\x7d" =
      .ok { version := "1.2.3", teardownTimeout := .ofSeconds 3 } := by
  obtain ⟨hread, ⟨-, -, -, -, hpoll⟩, -, -, -, hsome⟩ := decode_text oversized
  have hpart := hsome [("teardown_timeout", .integer 3), ("version", .string "1.2.3")]
    (by simp [entries, oversized]) (by simp)
  have htext : (Json.object [("teardown_timeout", .integer 3), ("version", .string "1.2.3")]).render =
      "\x7b\"teardown_timeout\":3,\"version\":\"1.2.3\"\x7d" := by decide +kernel
  rw [htext] at hpart
  refine ⟨hread, ?_, ?_⟩
  · rw [hpoll]
    decide
  · rw [hpart]
    simp [only, rounded, oversized]

end Config

end Stevedore
