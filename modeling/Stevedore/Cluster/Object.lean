import Stevedore.Labels
/-!
# Objects of the cluster

The objects that the adapter creates, reads and changes. What is absent and what is present but
empty are told apart, so that an object that was read can be sent back unchanged.

Main definitions: `Cluster.Controller` (a replication controller), `Cluster.NetworkService`,
`Cluster.Pod`, `Cluster.Node`, and `Cluster.ObjectMeta`, which they share.
-/

namespace Stevedore.Cluster

/-- Name and labels of an object, and what the cluster notes about it. -/
structure ObjectMeta where
  name : Option String := none
  labels : Option Labels := none
  resourceVersion : Option String := none
  uid : Option String := none
deriving DecidableEq, Repr

/-! ## Replication controllers -/

/-- A port of a container. -/
structure ContainerPort where
  containerPort : Int32 := 0
  hostPort : Option Int32 := none
  protocol : Option String := none
deriving DecidableEq, Repr

/-- An environment variable of a container. -/
structure EnvVar where
  name : String := ""
  value : Option String := none
deriving DecidableEq, Repr

/-- A container of a pod. -/
structure Container where
  name : String := ""
  image : Option String := none
  command : Option (List String) := none
  ports : Option (List ContainerPort) := none
  env : Option (List EnvVar) := none
deriving DecidableEq, Repr

/-- What a pod runs. -/
structure PodSpec where
  containers : List Container := []
deriving DecidableEq, Repr

/-- The pods that a controller starts. -/
structure PodTemplate where
  metadata : Option ObjectMeta := none
  spec : Option PodSpec := none
deriving DecidableEq, Repr

/-- What is asked of a controller. -/
structure ControllerSpec where
  replicas : Option Int32 := none
  selector : Option Labels := none
  template : Option PodTemplate := none
deriving DecidableEq, Repr

/-- What was observed of a controller. -/
structure ControllerStatus where
  replicas : Int32 := 0
  readyReplicas : Option Int32 := none
deriving DecidableEq, Repr

/-- A replication controller: keeps a number of equal pods running. -/
structure Controller where
  metadata : ObjectMeta := {}
  spec : Option ControllerSpec := none
  status : Option ControllerStatus := none
deriving DecidableEq, Repr

namespace Controller

/-- The name, or the empty text where there is none. -/
def nameOrEmpty (c : Controller) : String := c.metadata.name.getD ""

/-- How many pods are asked for, where that is said. -/
def desired? (c : Controller) : Option Int32 := c.spec.bind (·.replicas)

/-- How many pods were observed, where that is said. -/
def observed? (c : Controller) : Option Int32 := c.status.map (·.replicas)

/-- The controller asking for another number of pods, and otherwise unchanged. -/
def scaledTo (c : Controller) (replicas : Int32) : Controller :=
  { c with spec := some { c.spec.getD {} with replicas := some replicas } }

/-- The controller with another number of observed pods, and otherwise unchanged. -/
def observing (c : Controller) (replicas : Int32) : Controller :=
  { c with status := some { c.status.getD {} with replicas } }

/-- Asking for another number of pods keeps the metadata. -/
@[simp] theorem metadata_scaledTo (c : Controller) (n : Int32) :
    (c.scaledTo n).metadata = c.metadata := rfl

/-- Observing another number of pods keeps the metadata. -/
@[simp] theorem metadata_observing (c : Controller) (n : Int32) :
    (c.observing n).metadata = c.metadata := rfl

end Controller

/-! ## Network services -/

/-- Where traffic goes inside a pod: to a port by number or by name. -/
inductive TargetPort where
  | number (n : Int32)
  | name (s : String)
deriving DecidableEq, Repr

/-- A port of a network service. -/
structure ServicePort where
  port : Int32 := 0
  protocol : Option String := none
  targetPort : Option TargetPort := none
deriving DecidableEq, Repr

/-- What is asked of a network service. -/
structure NetworkServiceSpec where
  ports : Option (List ServicePort) := none
  selector : Option Labels := none
  externalIps : Option (List String) := none
deriving DecidableEq, Repr

/-- A network service: a name under which pods are reached. -/
structure NetworkService where
  metadata : ObjectMeta := {}
  spec : Option NetworkServiceSpec := none
deriving DecidableEq, Repr

/-- The name, or the empty text where there is none. -/
def NetworkService.nameOrEmpty (s : NetworkService) : String := s.metadata.name.getD ""

/-! ## Pods and nodes -/

/-- What was observed of a pod. -/
structure PodStatus where
  phase : Option String := none
deriving DecidableEq, Repr

/-- A pod: one running copy of a workload. -/
structure Pod where
  metadata : ObjectMeta := {}
  status : Option PodStatus := none
deriving DecidableEq, Repr

/-- The phase of a pod, where it is known. -/
def Pod.phase? (p : Pod) : Option String := p.status.bind (·.phase)

/-- A machine of the cluster. -/
structure Node where
  metadata : ObjectMeta := {}
deriving DecidableEq, Repr

end Stevedore.Cluster
