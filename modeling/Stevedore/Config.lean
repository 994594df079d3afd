import Stevedore.Json.Record
import Stevedore.Duration
/-!
# Configuration of the adapter

Main definitions: `Config`, its JSON form `Config.toJson` and the description `Config.record`. In
JSON the timeout counts whole seconds and the poll interval whole milliseconds.
-/

namespace Stevedore

open Json (Record Member readString readUInt64 always)

/-- The version of this program. -/
def programVersion : String := "0.1.0"

/-- How the adapter works. -/
structure Config where
  /-- The namespace of the cluster that all objects are in. -/
  clusterNamespace : String := "default"
  /-- The version that the adapter reports. -/
  version : String := programVersion
  /-- Addresses attached to every network service. -/
  externalIps : List String := []
  /-- How long a removal waits for the pods to end; zero does not wait. -/
  teardownTimeout : Duration := .ofSeconds 10
  /-- The pause between two looks at the pods. -/
  pollInterval : Duration := .ofMillis 500
deriving DecidableEq, Repr

namespace Config

/-- The configuration with other external addresses. -/
def withExternalIps (c : Config) (ips : List String) : Config := { c with externalIps := ips }

/-- The configuration with other spans for the wait after a removal. -/
def withTeardown (c : Config) (timeout poll : Duration) : Config :=
  { c with teardownTimeout := timeout, pollInterval := poll }

/-- The configuration with another version. -/
def withVersion (c : Config) (version : String) : Config := { c with version }

/-- The JSON of a configuration: the timeout in whole seconds, the poll interval in whole
milliseconds. -/
def toJson (c : Config) : Json :=
  .ofMembers [
    always "namespace" (.string c.clusterNamespace),
    always "version" (.string c.version),
    always "external_ips" (.list .string c.externalIps),
    always "teardown_timeout" (.integer c.teardownTimeout.seconds.toNat),
    always "teardown_poll_interval" (.integer c.pollInterval.toMillis.toNat)]

/-- How a configuration is read; members that are missing keep their defaults. -/
def record : Record Config where
  title := "struct AdapterConfig"
  initial := {}
  members := [
    .optional "namespace" readString fun v c => { c with clusterNamespace := v },
    .optional "version" readString fun v c => { c with version := v },
    .optional "external_ips" (Json.readList readString) fun v c => { c with externalIps := v },
    .optional "teardown_timeout" readUInt64 fun v c => { c with teardownTimeout := .ofSeconds v },
    .optional "teardown_poll_interval" readUInt64 fun v c => { c with pollInterval := .ofMillis v }]

end Config

end Stevedore
