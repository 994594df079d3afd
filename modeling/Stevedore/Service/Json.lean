import Stevedore.Json.Record
import Stevedore.Service
/-!
# The JSON form of services

Every member may be left out, and then has its default. What is empty is not written, with the
exception of the members that make a part what it is.

Main definitions: for each type of `Stevedore.Service` a writer `toJson` and a description `record`,
and `Service.readList` for a batch.
-/

namespace Stevedore

open Json (Record Member readString readUInt16 readInt32 always omitIf omitEmpty omitNil)

/-- An integer of 32 bits as JSON. -/
def Json.ofInt32 (n : Int32) : Json := .integer n.toInt

/-- A port number as JSON. -/
def Json.ofUInt16 (n : UInt16) : Json := .integer n.toNat

namespace Link

/-- The JSON of a link, with both members. -/
def toJson (l : Link) : Json :=
  .ofMembers [always "name" (.string l.target), always "alias" (.string l.aliasName)]

/-- How a link is read; members that are missing keep their defaults. -/
def record : Record Link where
  title := "struct Link"
  initial := {}
  members := [
    .optional "name" readString fun v l => { l with target := v },
    .optional "alias" readString fun v l => { l with aliasName := v }]

end Link

namespace Port

/-- The JSON of a port, without the members that have their default. -/
def toJson (p : Port) : Json :=
  .ofMembers [
    omitIf "hostPort" (p.host == 0) (.ofUInt16 p.host),
    always "containerPort" (.ofUInt16 p.container),
    omitEmpty "protocol" p.protocol]

/-- How a port is read. -/
def record : Record Port where
  title := "struct Port"
  initial := {}
  members := [
    .optional "hostPort" readUInt16 fun v p => { p with host := v },
    .optional "containerPort" readUInt16 fun v p => { p with container := v },
    .optional "protocol" readString fun v p => { p with protocol := v }]

end Port

namespace EnvVariable

/-- The JSON of a variable, with both members. -/
def toJson (e : EnvVariable) : Json :=
  .ofMembers [always "variable" (.string e.name), always "value" (.string e.value)]

/-- How a variable is read. -/
def record : Record EnvVariable where
  title := "struct Environment"
  initial := {}
  members := [
    .optional "variable" readString fun v e => { e with name := v },
    .optional "value" readString fun v e => { e with value := v }]

end EnvVariable

namespace Volume

/-- The JSON of a volume, with both members. -/
def toJson (v : Volume) : Json :=
  .ofMembers [always "hostPath" (.string v.host), always "containerPath" (.string v.container)]

/-- How a volume is read. -/
def record : Record Volume where
  title := "struct Volume"
  initial := {}
  members := [
    .optional "hostPath" readString fun v r => { r with host := v },
    .optional "containerPath" readString fun v r => { r with container := v }]

end Volume

namespace VolumeSource

/-- The JSON of a source of volumes. -/
def toJson (v : VolumeSource) : Json := .ofMembers [always "name" (.string v.name)]

/-- How a source of volumes is read. -/
def record : Record VolumeSource where
  title := "struct VolumesFrom"
  initial := {}
  members := [.optional "name" readString fun v r => { r with name := v }]

end VolumeSource

namespace Replication

/-- The JSON of a replication. -/
def toJson (r : Replication) : Json := .ofMembers [always "count" (.ofInt32 r.count)]

/-- How a replication is read. -/
def record : Record Replication where
  title := "struct Deployment"
  initial := {}
  members := [.optional "count" readInt32 fun v r => { r with count := v }]

end Replication

namespace Service

/-- The JSON of a service, without the members that are empty. -/
def toJson (s : Service) : Json :=
  .ofMembers [
    omitEmpty "name" s.name,
    omitEmpty "source" s.source,
    omitEmpty "command" s.command,
    omitNil "links" Link.toJson s.links,
    omitNil "ports" Port.toJson s.ports,
    omitNil "expose" Json.ofUInt16 s.expose,
    omitNil "environment" EnvVariable.toJson s.environment,
    omitNil "volumes" Volume.toJson s.volumes,
    omitNil "volumes_from" VolumeSource.toJson s.volumesFrom,
    always "deployment" s.replication.toJson]

/-- How a service is read; members that are missing keep their defaults. -/
def record : Record Service where
  title := "struct Service"
  initial := {}
  members := [
    .optional "name" readString fun v s => { s with name := v },
    .optional "source" readString fun v s => { s with source := v },
    .optional "command" readString fun v s => { s with command := v },
    .optional "links" (Json.readList Link.record.read) fun v s => { s with links := v },
    .optional "ports" (Json.readList Port.record.read) fun v s => { s with ports := v },
    .optional "expose" (Json.readList readUInt16) fun v s => { s with expose := v },
    .optional "environment" (Json.readList EnvVariable.record.read)
      fun v s => { s with environment := v },
    .optional "volumes" (Json.readList Volume.record.read) fun v s => { s with volumes := v },
    .optional "volumes_from" (Json.readList VolumeSource.record.read)
      fun v s => { s with volumesFrom := v },
    .optional "deployment" Replication.record.read fun v s => { s with replication := v }]

/-- Reads a batch of services. -/
def readList : Json.Reader (List Service) := Json.readList record.read

end Service

end Stevedore
