import Stevedore.Cluster.Object
import Stevedore.Name
import Stevedore.Service
/-!
# Workloads

The replication controller that runs a service. Its name, the name of its one container and the
label by which its pods are found are the network name of the service.

Main definitions: `Workload.controller`, and the labels `serviceNameLabel` and `applicationLabel`.
-/

namespace Stevedore

/-- The label that holds the network name of a service. -/
def serviceNameLabel : String := "service-name"

/-- The label that all pods of the adapter carry, with its own text as value. -/
def applicationLabel : String := "panamax"

/-- The selector of the objects that belong to a name. -/
def Selector.forName (name : String) : Selector := .label serviceNameLabel name

/-- A text with the ASCII letters in upper case. -/
def upperAscii (s : String) : String := String.ofList (s.toList.map Char.toUpper)

/-- The network protocol that a protocol text stands for; TCP when it is empty. -/
def protocolName (protocol : String) : String :=
  if protocol.isEmpty then "TCP" else upperAscii protocol

/-- A port number as an integer of 32 bits. -/
def portNumber (port : UInt16) : Int32 := Int32.ofNat port.toNat

/-- A list, absent when it is empty. -/
def presentUnlessNil (items : List α) : Option (List α) :=
  if items.isEmpty then none else some items

namespace Workload

open Cluster

/-- A port as the container has it; without host port none is asked for. -/
def containerPort (p : Port) : ContainerPort where
  containerPort := portNumber p.container
  hostPort := if p.host = 0 then none else some (portNumber p.host)
  protocol := some (protocolName p.protocol)

/-- A variable as the container has it. -/
def envVar (e : EnvVariable) : EnvVar := { name := e.name, value := some e.value }

/-- The container of a service. An empty command is left to the image. -/
def container (s : Service) : Container where
  name := Name.sanitize s.name
  image := some s.source
  command := if s.command.isEmpty then none else some [s.command]
  ports := presentUnlessNil (s.ports.map containerPort)
  env := presentUnlessNil (s.environment.map envVar)

/-- The labels of the pods of a service. -/
def podLabels (name : String) : Labels :=
  (Labels.single serviceNameLabel name).insert applicationLabel applicationLabel

/-- How many pods a requested count asks for: at least one. -/
def replicas (r : Replication) : Int32 := if r.count < 1 then 1 else r.count

/-- The replication controller that runs a service. -/
def controller (s : Service) : Controller where
  metadata := { name := some (Name.sanitize s.name) }
  spec := some {
    replicas := some (replicas s.replication)
    selector := some (.single serviceNameLabel (Name.sanitize s.name))
    template := some {
      metadata := some { labels := some (podLabels (Name.sanitize s.name)) }
      spec := some { containers := [container s] } } }

/-- The controller has the network name of the service. -/
@[simp] theorem name_controller (s : Service) :
    (controller s).metadata.name = some (Name.sanitize s.name) := rfl

end Workload

end Stevedore
