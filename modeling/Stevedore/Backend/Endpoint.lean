import Stevedore.Error
import Stevedore.Uri
/-!
# Where the API of a cluster is found

Main definitions: `Api.Endpoint`, and `Api.Endpoint.parse` for an address given as text.
-/

namespace Stevedore.Api

/-- The address of a cluster with the credentials used there, and the namespace of all objects. -/
structure Endpoint where
  address : Uri
  username : Option String := none
  password : Option String := none
  clusterNamespace : String
deriving DecidableEq, Repr

namespace Endpoint

/-- An address that is no URI. -/
def invalidAddress (address : String) (fault : Uri.Fault) : Error :=
  .config ("invalid Kubernetes endpoint '" ++ address ++ "': " ++ fault.message)

/-- The endpoint at an address. Only the form of the address is looked at. -/
def parse (address : String) (username password : Option String) (clusterNamespace : String) :
    Except Error Endpoint :=
  match Uri.parse address with
  | .ok uri => .ok { address := uri, username, password, clusterNamespace }
  | .error fault => .error (invalidAddress address fault)

end Endpoint

end Stevedore.Api
