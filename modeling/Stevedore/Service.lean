/-!
# Abstract services

A service to deploy, described independently of any cluster: an image with its start command, links
to other services of the same batch, ports, environment and volumes.

Main definitions: `Service`, and its parts `Link`, `Port`, `EnvVariable`, `Volume`, `VolumeSource`
and `Replication`.
-/

namespace Stevedore

/-- A link to another service of the batch; under a nonempty alias the target's port is exposed by
that name too. -/
structure Link where
  target : String := ""
  aliasName : String := ""
deriving DecidableEq, Repr, Inhabited

/-- A port of a container, mapped to a port of the host unless that is 0. -/
structure Port where
  host : UInt16 := 0
  container : UInt16 := 0
  protocol : String := ""
deriving DecidableEq, Repr, Inhabited

/-- A port mapped over TCP. -/
def Port.tcp (host container : UInt16) : Port := ⟨host, container, "TCP"⟩

/-- A variable of the container's environment. -/
structure EnvVariable where
  name : String := ""
  value : String := ""
deriving DecidableEq, Repr, Inhabited

/-- A directory of the host that the container sees. -/
structure Volume where
  host : String := ""
  container : String := ""
deriving DecidableEq, Repr, Inhabited

/-- A container whose volumes are mounted. -/
structure VolumeSource where
  name : String := ""
deriving DecidableEq, Repr, Inhabited

/-- How often a service runs; a count below one says nothing. -/
structure Replication where
  count : Int32 := 0
deriving DecidableEq, Repr, Inhabited

/-- A service to deploy. -/
structure Service where
  name : String := ""
  /-- The image. -/
  source : String := ""
  /-- The start command; empty for the image's own. -/
  command : String := ""
  links : List Link := []
  ports : List Port := []
  /-- Ports that are open without a mapping. -/
  expose : List UInt16 := []
  environment : List EnvVariable := []
  volumes : List Volume := []
  volumesFrom : List VolumeSource := []
  replication : Replication := {}
deriving DecidableEq, Repr, Inhabited

namespace Service

/-! ## Building a service up -/

/-- The service with one more port. -/
def withPort (s : Service) (port : Port) : Service := { s with ports := s.ports ++ [port] }

/-- The service with one more link. -/
def withLink (s : Service) (link : Link) : Service := { s with links := s.links ++ [link] }

/-- The service with one more variable. -/
def withEnv (s : Service) (name value : String) : Service :=
  { s with environment := s.environment ++ [⟨name, value⟩] }

/-- The service with another command. -/
def withCommand (s : Service) (command : String) : Service := { s with command }

/-- The service with another count. -/
def withCount (s : Service) (count : Int32) : Service := { s with replication := ⟨count⟩ }

/-- The links that ask for a name of their own. -/
def aliasedLinks (s : Service) : List Link := s.links.filter fun l => !l.aliasName.isEmpty

end Service

end Stevedore
