import Stevedore.Lifecycle
/-!
# The operations of the adapter

The adapter keeps no state of its own: every answer is found from the objects of the cluster.

Main definitions: `Adapter.list`, `Adapter.get`, `Adapter.create`, `Adapter.destroy` and
`Adapter.info`.
-/

namespace Stevedore.Adapter

/-- Lists every deployment. -/
def list : Program (List DeploymentRecord) := do
  let controllers ← Program.listControllers
  Program.forEach controllers Lifecycle.recordOf

/-- Finds one deployment. -/
def get (id : String) : Program DeploymentRecord := do
  let c ← Program.getController id
  Lifecycle.recordOf c

/-- Creates a batch of services. -/
def create (config : Config) (batch : List Service) : Program (List DeploymentRecord) :=
  Lifecycle.create config batch

/-- Removes one deployment. -/
def destroy (config : Config) (clock : Clock config.pollInterval.toNanos) (id : String) :
    Program Unit :=
  Lifecycle.destroy config clock id

/-- The kind of backend that the adapter works on. -/
def backendKind : String := "Kubernetes"

/-- What the adapter says about itself, with a live look at the backend. -/
def info (config : Config) : Program AdapterInfo := do
  let healthy ← Program.health
  return ⟨config.version, backendKind, healthy⟩

end Stevedore.Adapter
