import Stevedore.Json.Record
/-!
# What is reported about deployments

Main definitions:

- `DeploymentRecord`: a deployment by its id, with the text of its status.
- `AdapterInfo`: what the adapter says about itself.
-/

namespace Stevedore

open Json (Record Member readString readBoolean always)

/-- A deployed service. -/
structure DeploymentRecord where
  id : String
  state : String
deriving DecidableEq, Repr, Inhabited

namespace DeploymentRecord

/-- The JSON of a record, with both members. -/
def toJson (d : DeploymentRecord) : Json :=
  .ofMembers [always "id" (.string d.id), always "actualState" (.string d.state)]

/-- How a record is read; both members have to be there. -/
def record : Record DeploymentRecord where
  title := "struct ServiceDeployment"
  initial := default
  members := [
    .mandatory "id" readString fun v d => { d with id := v },
    .mandatory "actualState" readString fun v d => { d with state := v }]

end DeploymentRecord

/-- The version of the adapter, the kind of its backend, and whether the backend answers. -/
structure AdapterInfo where
  version : String
  kind : String
  healthy : Bool
deriving DecidableEq, Repr, Inhabited

namespace AdapterInfo

/-- The JSON of what the adapter says about itself, with all three members. -/
def toJson (i : AdapterInfo) : Json :=
  .ofMembers [
    always "version" (.string i.version),
    always "type" (.string i.kind),
    always "isHealthy" (.boolean i.healthy)]

/-- How it is read; all three members have to be there. -/
def record : Record AdapterInfo where
  title := "struct Metadata"
  initial := default
  members := [
    .mandatory "version" readString fun v i => { i with version := v },
    .mandatory "type" readString fun v i => { i with kind := v },
    .mandatory "isHealthy" readBoolean fun v i => { i with healthy := v }]

end AdapterInfo

end Stevedore
