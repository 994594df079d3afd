import Stevedore.Json.Tree
import Stevedore.Json.Record
import Stevedore.Cluster.Object
/-!
# The JSON form of cluster objects

An object says its version and kind. What is absent is not written; what is present but empty is.
Reading, `null` is the same as absent, members that are not described are passed over, and of a
repeated member the last one counts.

Main definitions: for each type of `Stevedore.Cluster.Object` a writer `toJson` and a description
`record`, and `Cluster.listing` for the lists that the cluster answers with.
-/

namespace Stevedore.Cluster

open Json (Record Member Reader readString readInt32 readList readOptional always whenPresent)

/-- A description of a part of a cluster object. -/
def part (title : String) (initial : σ) (members : List (Member σ)) : Record σ where
  title := title
  initial := initial
  members := members
  listForm := .unexpected
  lastCounts := true

/-- A description of a cluster object of a kind. -/
def object (kind : String) (initial : σ) (members : List (Member σ)) : Record σ :=
  part kind initial (.fixed "apiVersion" "v1" :: .fixed "kind" kind :: members)

/-- A member that may be absent or `null`. -/
def maybe (key : String) (read : Reader α) (set : Option α → σ → σ) : Member σ :=
  .optional key (readOptional read) set

/-- Reads labels. -/
def readLabels : Reader Labels := (Json.readEntries readString).map Labels.ofList

/-- Labels as an object. -/
def labelsToJson (l : Labels) : Json := .object (l.entries.map fun (k, v) => (k, .string v))

/-- An integer of 32 bits as JSON. -/
def int32ToJson (n : Int32) : Json := .integer n.toInt

/-- The head of an object of a kind. -/
def heading (kind : String) : List (String × Option Json) :=
  [always "apiVersion" (.string "v1"), always "kind" (.string kind)]

namespace ObjectMeta

/-- The members of the metadata that are there, in the order of their names. -/
def toJson (m : ObjectMeta) : Json :=
  .ofMembers [
    whenPresent "labels" labelsToJson m.labels,
    whenPresent "name" .string m.name,
    whenPresent "resourceVersion" .string m.resourceVersion,
    whenPresent "uid" .string m.uid]

/-- How metadata is read; every member may be missing or `null`. -/
def record : Record ObjectMeta :=
  part "ObjectMeta" {} [
    maybe "labels" readLabels fun v m => { m with labels := v },
    maybe "name" readString fun v m => { m with name := v },
    maybe "resourceVersion" readString fun v m => { m with resourceVersion := v },
    maybe "uid" readString fun v m => { m with uid := v }]

end ObjectMeta

/-- The metadata of an object; absent it is empty. -/
def metadataMember (set : ObjectMeta → σ → σ) : Member σ :=
  maybe "metadata" ObjectMeta.record.read fun v => set (v.getD {})

/-! ## Replication controllers -/

namespace ContainerPort

/-- The JSON of a port of a container. -/
def toJson (p : ContainerPort) : Json :=
  .ofMembers [
    always "containerPort" (int32ToJson p.containerPort),
    whenPresent "hostPort" int32ToJson p.hostPort,
    whenPresent "protocol" .string p.protocol]

/-- How a port of a container is read; without number it is port 0. -/
def record : Record ContainerPort :=
  part "ContainerPort" {} [
    maybe "containerPort" readInt32 fun v p => { p with containerPort := v.getD 0 },
    maybe "hostPort" readInt32 fun v p => { p with hostPort := v },
    maybe "protocol" readString fun v p => { p with protocol := v }]

end ContainerPort

namespace EnvVar

/-- The JSON of a variable of a container. -/
def toJson (e : EnvVar) : Json :=
  .ofMembers [always "name" (.string e.name), whenPresent "value" .string e.value]

/-- How a variable of a container is read. -/
def record : Record EnvVar :=
  part "EnvVar" {} [
    maybe "name" readString fun v e => { e with name := v.getD "" },
    maybe "value" readString fun v e => { e with value := v }]

end EnvVar

namespace Container

/-- The JSON of a container, without the members that are not set. -/
def toJson (c : Container) : Json :=
  .ofMembers [
    whenPresent "command" (.list .string) c.command,
    whenPresent "env" (.list EnvVar.toJson) c.env,
    whenPresent "image" .string c.image,
    always "name" (.string c.name),
    whenPresent "ports" (.list ContainerPort.toJson) c.ports]

/-- How a container is read. -/
def record : Record Container :=
  part "Container" {} [
    maybe "command" (readList readString) fun v c => { c with command := v },
    maybe "env" (readList EnvVar.record.read) fun v c => { c with env := v },
    maybe "image" readString fun v c => { c with image := v },
    maybe "name" readString fun v c => { c with name := v.getD "" },
    maybe "ports" (readList ContainerPort.record.read) fun v c => { c with ports := v }]

end Container

namespace PodSpec

/-- The JSON of what is asked of a pod; the containers are always written. -/
def toJson (s : PodSpec) : Json :=
  .ofMembers [always "containers" (.list Container.toJson s.containers)]

/-- How it is read; without containers there are none. -/
def record : Record PodSpec :=
  part "PodSpec" {} [
    maybe "containers" (readList Container.record.read)
      fun v s => { s with containers := v.getD [] }]

end PodSpec

namespace PodTemplate

/-- The JSON of a template of pods. -/
def toJson (t : PodTemplate) : Json :=
  .ofMembers [
    whenPresent "metadata" ObjectMeta.toJson t.metadata,
    whenPresent "spec" PodSpec.toJson t.spec]

/-- How a template of pods is read. -/
def record : Record PodTemplate :=
  part "PodTemplateSpec" {} [
    maybe "metadata" ObjectMeta.record.read fun v t => { t with metadata := v },
    maybe "spec" PodSpec.record.read fun v t => { t with spec := v }]

end PodTemplate

namespace ControllerSpec

/-- The JSON of what is asked of a controller, without the members that are not set. -/
def toJson (s : ControllerSpec) : Json :=
  .ofMembers [
    whenPresent "replicas" int32ToJson s.replicas,
    whenPresent "selector" labelsToJson s.selector,
    whenPresent "template" PodTemplate.toJson s.template]

/-- How it is read. -/
def record : Record ControllerSpec :=
  part "ReplicationControllerSpec" {} [
    maybe "replicas" readInt32 fun v s => { s with replicas := v },
    maybe "selector" readLabels fun v s => { s with selector := v },
    maybe "template" PodTemplate.record.read fun v s => { s with template := v }]

end ControllerSpec

namespace ControllerStatus

/-- The JSON of what was observed of a controller; the number of pods is always written. -/
def toJson (s : ControllerStatus) : Json :=
  .ofMembers [
    whenPresent "readyReplicas" int32ToJson s.readyReplicas,
    always "replicas" (int32ToJson s.replicas)]

/-- How it is read; without a number no pods were observed. -/
def record : Record ControllerStatus :=
  part "ReplicationControllerStatus" {} [
    maybe "readyReplicas" readInt32 fun v s => { s with readyReplicas := v },
    maybe "replicas" readInt32 fun v s => { s with replicas := v.getD 0 }]

end ControllerStatus

namespace Controller

/-- The kind that the JSON of a controller names. -/
def kind : String := "ReplicationController"

/-- The JSON of a controller; the metadata is always written. -/
def toJson (c : Controller) : Json :=
  .ofMembers (heading kind ++ [
    always "metadata" c.metadata.toJson,
    whenPresent "spec" ControllerSpec.toJson c.spec,
    whenPresent "status" ControllerStatus.toJson c.status])

/-- How a controller is read. -/
def record : Record Controller :=
  object kind {} [
    metadataMember fun v c => { c with metadata := v },
    maybe "spec" ControllerSpec.record.read fun v c => { c with spec := v },
    maybe "status" ControllerStatus.record.read fun v c => { c with status := v }]

end Controller

/-! ## Network services -/

namespace TargetPort

/-- A port by number is a number in JSON, and one by name a string. -/
def toJson : TargetPort → Json
  | number n => int32ToJson n
  | name s => .string s

/-- How messages call a target port. -/
def title : String := "IntOrString"

/-- Reads a number of 32 bits or a name. -/
def read : Reader TargetPort := fun c =>
  Json.atValue c fun c =>
    if c.head? = some '"' then Json.readLiteral.map name c.next
    else if c.head? = some '-' ∨ c.atDigit then
      match Json.readNumber c with
      | .error e => .error e
      | .ok (.integer n, c) =>
        if -2147483648 ≤ n ∧ n ≤ 2147483647 then .ok (.number (Int32.ofInt n), c)
        else Json.fail (.wrongValue (.integer n) "a 32-bit integer") c
      | .ok (.real x, c) => Json.fail (.wrongType (.real x) title) c
    else if c.head? = some '[' then
      Json.closing .list (.error (.pending (.wrongType .sequence title) c.next))
    else if c.head? = some '\x7b' then
      Json.closing .object (.error (.pending (.wrongType .map title) c.next))
    else Json.mismatch title c

end TargetPort

namespace ServicePort

/-- The JSON of a port of a network service. -/
def toJson (p : ServicePort) : Json :=
  .ofMembers [
    always "port" (int32ToJson p.port),
    whenPresent "protocol" .string p.protocol,
    whenPresent "targetPort" TargetPort.toJson p.targetPort]

/-- How a port of a network service is read; without number it is port 0. -/
def record : Record ServicePort :=
  part "ServicePort" {} [
    maybe "port" readInt32 fun v p => { p with port := v.getD 0 },
    maybe "protocol" readString fun v p => { p with protocol := v },
    maybe "targetPort" TargetPort.read fun v p => { p with targetPort := v }]

end ServicePort

namespace NetworkServiceSpec

/-- The JSON of what is asked of a network service, without the members that are not set. -/
def toJson (s : NetworkServiceSpec) : Json :=
  .ofMembers [
    whenPresent "externalIPs" (.list .string) s.externalIps,
    whenPresent "ports" (.list ServicePort.toJson) s.ports,
    whenPresent "selector" labelsToJson s.selector]

/-- How it is read. -/
def record : Record NetworkServiceSpec :=
  part "ServiceSpec" {} [
    maybe "externalIPs" (readList readString) fun v s => { s with externalIps := v },
    maybe "ports" (readList ServicePort.record.read) fun v s => { s with ports := v },
    maybe "selector" readLabels fun v s => { s with selector := v }]

end NetworkServiceSpec

namespace NetworkService

/-- The kind that the JSON of a network service names. -/
def kind : String := "Service"

/-- The JSON of a network service; the metadata is always written. -/
def toJson (s : NetworkService) : Json :=
  .ofMembers (heading kind ++ [
    always "metadata" s.metadata.toJson,
    whenPresent "spec" NetworkServiceSpec.toJson s.spec])

/-- How a network service is read. -/
def record : Record NetworkService :=
  object kind {} [
    metadataMember fun v s => { s with metadata := v },
    maybe "spec" NetworkServiceSpec.record.read fun v s => { s with spec := v }]

end NetworkService

/-! ## Pods and nodes -/

namespace PodStatus

/-- The JSON of what was observed of a pod. -/
def toJson (s : PodStatus) : Json := .ofMembers [whenPresent "phase" .string s.phase]

/-- How it is read. -/
def record : Record PodStatus :=
  part "PodStatus" {} [maybe "phase" readString fun v s => { s with phase := v }]

end PodStatus

namespace Pod

/-- The kind that the JSON of a pod names. -/
def kind : String := "Pod"

/-- The JSON of a pod; the metadata is always written. -/
def toJson (p : Pod) : Json :=
  .ofMembers (heading kind ++ [
    always "metadata" p.metadata.toJson,
    whenPresent "status" PodStatus.toJson p.status])

/-- How a pod is read. -/
def record : Record Pod :=
  object kind {} [
    metadataMember fun v p => { p with metadata := v },
    maybe "status" PodStatus.record.read fun v p => { p with status := v }]

end Pod

namespace Node

/-- The kind that the JSON of a node names. -/
def kind : String := "Node"

/-- The JSON of a node, of which only the metadata is kept. -/
def toJson (n : Node) : Json :=
  .ofMembers (heading kind ++ [always "metadata" n.metadata.toJson])

/-- How a node is read. -/
def record : Record Node := object kind {} [metadataMember fun v n => { n with metadata := v }]

end Node

/-! ## Lists -/

/-- The metadata of a list; nothing of it is kept. -/
def listMeta : Record Unit :=
  part "ListMeta" () [
    maybe "continue" readString fun _ u => u,
    maybe "remainingItemCount"
      (Json.readInteger "i64" (-9223372036854775808) 9223372036854775807) fun _ u => u,
    maybe "resourceVersion" readString fun _ u => u,
    maybe "selfLink" readString fun _ u => u]

/-- A list of objects as the cluster answers with it. A repeated member is a fault, and what is not
described is read as a value of any kind, one level down. -/
def listing (read : Reader α) : Record (List α) where
  title := "struct ObjectList"
  initial := []
  members := [
    .optional "metadata" listMeta.read fun _ items => items,
    .mandatory "items" (readOptional (readList read)) fun v _ => v.getD []]
  listForm := .mismatch
  passOver := (Json.readTree (Json.maxDepth - 1)).map fun _ => ()

/-- A list of objects of a kind, as JSON. -/
def listingToJson (kind : String) (write : α → Json) (items : List α) : Json :=
  .ofMembers (heading (kind ++ "List") ++ [
    always "items" (.list write items), always "metadata" (.object [])])

end Stevedore.Cluster
