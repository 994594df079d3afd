import Stevedore.Deployment
import Stevedore.Exposure
import Stevedore.Status
import Stevedore.Teardown
/-!
# Creating and removing deployments

Each call depends on what the ones before it did, so they are made strictly in order, and the first
failure ends the sequence. What was created before a failure stays.

Main definitions:

- `Lifecycle.create`: creates a batch of services.
- `Lifecycle.dismantle`: removes the objects of a deployment.
- `Lifecycle.destroy`: removes a deployment and waits for its pods to end.
-/

namespace Stevedore.Lifecycle

open Cluster

/-- The record of a controller: its name and its status. -/
def recordOf (c : Controller) : Program DeploymentRecord := do
  let status ← Status.ofController c
  return ⟨c.nameOrEmpty, status.text⟩

/-- Creates the workload of a service. -/
def deploy (s : Service) : Program DeploymentRecord := do
  let created ← Program.createController (Workload.controller s)
  recordOf created

/-- Creates a batch of services. A batch that is rejected makes no call. The network services come
first, then the workloads in the order of the batch. -/
def create (config : Config) (batch : List Service) : Program (List DeploymentRecord) :=
  match Exposure.resolve config.externalIps batch with
  | .error r => .fail (.error r.toError)
  | .ok services => do
    let _ ← Program.forEach services Program.createService
    Program.forEach batch deploy

/-- The name of a deployment that was found under an id. -/
def nameOf (id : String) (c : Controller) : String := c.metadata.name.getD id

/-- Removes the objects of a deployment: first its network services, then its controller, after that
was told to run no more pods. Returns the selector of its pods. -/
def dismantle (id : String) : Program Selector := do
  let c ← Program.getController id
  let selector := Selector.forName (nameOf id c)
  let services ← Program.listServices selector
  let _ ← Program.forEach (services.filterMap (·.metadata.name)) Program.deleteService
  let _ ← Program.updateController (c.scaledTo 0)
  Program.deleteController (nameOf id c)
  return selector

/-- Removes a deployment and waits for its pods to end. -/
def destroy (config : Config) (clock : Clock config.pollInterval.toNanos) (id : String) :
    Program Unit := do
  let selector ← dismantle id
  Teardown.wait clock selector config.teardownTimeout

end Stevedore.Lifecycle
