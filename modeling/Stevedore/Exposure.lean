import Stevedore.Error
import Stevedore.Workload
/-!
# Exposure of a batch of services

Each service that maps a port is reached under its network name, and under every alias by which
another service of the batch links to it. The names are settled for the whole batch before anything
is created; a batch that leaves one of them in doubt is rejected.

Main definitions:

- `Exposure.Rejection`: why a batch is rejected.
- `Exposure.networkService`: the network service for a name and a port.
- `Exposure.resolve`: the network services of a batch.
-/

namespace Stevedore.Exposure

open Cluster

/-- Why a batch is rejected. -/
inductive Rejection where
  /-- A service maps more than one port. -/
  | multiplePorts
  /-- An alias is the name of something else already. -/
  | aliasTaken (aliasName : String)
  /-- Two services have the same network name. -/
  | nameTaken (name : String)
  /-- A link goes to no service of the batch. -/
  | unknownTarget (name : String)
  /-- A link goes to a service without a port. -/
  | portlessTarget (name : String)
deriving DecidableEq, Repr

/-- A name in single quotes. -/
def inQuotes (s : String) : String := "'" ++ s ++ "'"

/-- What the caller is told of the rejection. -/
def Rejection.message : Rejection → String
  | .multiplePorts => "multiple ports from a single container is not currently supported"
  | .aliasTaken a => "multiple services with the same alias name " ++ inQuotes a
  | .nameTaken n => "multiple services with the same name " ++ inQuotes n
  | .unknownTarget n => "linking to non-existent service " ++ inQuotes n
  | .portlessTarget n => "linked-to service " ++ inQuotes n ++ " exposes no ports"

/-- An unsupported layout of ports is a conflict, every other rejection a failed validation. -/
def Rejection.toError : Rejection → Error
  | .multiplePorts => .conflict Rejection.multiplePorts.message
  | r => .validation r.message

/-! ## The network service of a name -/

/-- The port that a name is reached at: the host port, or the container's where there is none. -/
def servicePort (p : Port) : ServicePort where
  port := portNumber (if p.host = 0 then p.container else p.host)
  targetPort := some (.number (portNumber p.container))
  protocol := some (protocolName p.protocol)

/-- The network service for a name and a port. It selects every pod of the adapter: the services of
a batch share one namespace, and the name alone tells them apart. -/
def networkService (externalIps : List String) (name : String) (p : Port) : NetworkService where
  metadata := { name := some name, labels := some (.single serviceNameLabel name) }
  spec := some {
    selector := some (.single applicationLabel applicationLabel)
    ports := some [servicePort p]
    externalIps := presentUnlessNil externalIps }

/-! ## Checks on the whole batch -/

/-- The links of a batch that have an alias, in the order of the batch. -/
def aliasedLinks (batch : List Service) : List Link := batch.flatMap Service.aliasedLinks

/-- Some service maps more than one port. -/
def hasManyPorts (batch : List Service) : Bool := batch.any fun s => 1 < s.ports.length

/-- Names in use, each with the service that it stands for. Of entries for one name the first
counts. -/
abbrev Owners := List (String × String)

/-- The owners of the names that the port-mapping services of a batch have by themselves; a later
service comes before an earlier one. -/
def ownOwners (batch : List Service) : Owners :=
  ((batch.filter fun s => !s.ports.isEmpty).map fun s => (Name.sanitize s.name, s.name)).reverse

/-- The first alias, if any, that stands for another service already. Each link gives its alias to
its target if nothing else has it. -/
def firstTakenAlias (owners : Owners) : List Link → Option String
  | [] => none
  | l :: rest =>
    let name := Name.sanitize l.aliasName
    match owners.lookup name with
    | some owner => if owner = l.target then firstTakenAlias owners rest else some l.aliasName
    | none => firstTakenAlias ((name, l.target) :: owners) rest

/-- The first service, if any, whose network name another one before it has. -/
def firstTakenName (seen : List String) : List Service → Option String
  | [] => none
  | s :: rest =>
    let name := Name.sanitize s.name
    if seen.contains name then some s.name else firstTakenName (name :: seen) rest

/-- Checks the names of a batch. -/
def check (batch : List Service) : Except Rejection Unit :=
  if hasManyPorts batch then .error .multiplePorts
  else
    match firstTakenAlias (ownOwners batch) (aliasedLinks batch) with
    | some a => .error (.aliasTaken a)
    | none =>
      match firstTakenName [] batch with
      | some n => .error (.nameTaken n)
      | none => .ok ()

/-! ## Resolution -/

/-- The last service of a batch with a name. -/
def find? (batch : List Service) (name : String) : Option Service :=
  batch.reverse.find? (·.name == name)

/-- The port that a link leads to. -/
def targetPort (batch : List Service) (l : Link) : Except Rejection Port :=
  match find? batch l.target with
  | none => .error (.unknownTarget l.target)
  | some s =>
    match s.ports.head? with
    | none => .error (.portlessTarget l.target)
    | some p => .ok p

/-- The names that services are reached under by themselves, with their ports. -/
def ownNames (batch : List Service) : List (String × Port) :=
  batch.filterMap fun s => s.ports.head?.map (Name.sanitize s.name, ·)

/-- The names that links add, with the ports they lead to; a name that is there already is not
added again. -/
def aliasNames (batch : List Service) (seen : List String) : List Link →
    Except Rejection (List (String × Port))
  | [] => .ok []
  | l :: rest =>
    match targetPort batch l with
    | .error r => .error r
    | .ok p =>
      let name := Name.sanitize l.aliasName
      if seen.contains name then aliasNames batch seen rest
      else
        match aliasNames batch (name :: seen) rest with
        | .error r => .error r
        | .ok names => .ok ((name, p) :: names)

/-- All names of a batch with their ports: those of the services first, then the aliases. -/
def names (batch : List Service) : Except Rejection (List (String × Port)) :=
  match check batch with
  | .error r => .error r
  | .ok () =>
    let own := ownNames batch
    match aliasNames batch (own.map (·.1)) (aliasedLinks batch) with
    | .error r => .error r
    | .ok added => .ok (own ++ added)

/-- The network services of a batch. -/
def resolve (externalIps : List String) (batch : List Service) :
    Except Rejection (List NetworkService) :=
  match names batch with
  | .error r => .error r
  | .ok names => .ok (names.map fun (name, port) => networkService externalIps name port)

end Stevedore.Exposure
