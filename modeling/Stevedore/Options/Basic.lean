import Stevedore.Config
import Stevedore.Options.Address
import Stevedore.Text.Blank
import Stevedore.Text.Pieces
/-!
# Options of the server

An option is given by a flag, or by a variable of the environment, or has its default.

Main definitions:

- `Flag`: the options that take a value.
- `Options`: the values of all options.
- `Given`: the values that were given so far, and `Given.enter` for one more.
- `Options.config`: the configuration of the adapter.
-/

namespace Stevedore

/-- The options that take a value. -/
inductive Flag where
  | listenAddress
  | master
  | username
  | password
  | clusterNamespace
  | publicIps
  | adapterVersion
  | teardownTimeout
  | pollInterval
deriving DecidableEq, Repr

namespace Flag

/-- All options, in the order of the help. -/
def all : List Flag :=
  [listenAddress, master, username, password, clusterNamespace, publicIps, adapterVersion,
    teardownTimeout, pollInterval]

/-- The name of the flag, after two hyphens. -/
def long : Flag → String
  | listenAddress => "listen-addr"
  | master => "kubernetes-master"
  | username => "kubernetes-username"
  | password => "kubernetes-password"
  | clusterNamespace => "namespace"
  | publicIps => "public-ips"
  | adapterVersion => "adapter-version"
  | teardownTimeout => "teardown-timeout-secs"
  | pollInterval => "teardown-poll-interval-ms"

/-- The variable of the environment. -/
def variableName : Flag → String
  | listenAddress => "LISTEN_ADDR"
  | master => "KUBERNETES_MASTER"
  | username => "KUBERNETES_USERNAME"
  | password => "KUBERNETES_PASSWORD"
  | clusterNamespace => "KUBERNETES_NAMESPACE"
  | publicIps => "SERVICE_PUBLIC_IPS"
  | adapterVersion => "ADAPTER_VERSION"
  | teardownTimeout => "TEARDOWN_TIMEOUT_SECS"
  | pollInterval => "TEARDOWN_POLL_INTERVAL_MS"

/-- The flag may be given more than once. -/
def repeats (f : Flag) : Bool := f == publicIps

/-- The option with a name. -/
def ofLong? (name : String) : Option Flag := all.find? (·.long == name)

end Flag

/-! ## Values -/

/-- The address that the server listens on by default. -/
def defaultListenAddress : SocketAddress := ⟨.v4 [0, 0, 0, 0], 8001⟩

/-- The values of all options. -/
structure Options where
  listenAddress : SocketAddress := defaultListenAddress
  master : Option String := none
  username : Option String := none
  password : Option String := none
  clusterNamespace : String := "default"
  publicIps : List String := []
  adapterVersion : String := programVersion
  teardownTimeoutSecs : UInt64 := 10
  pollIntervalMillis : UInt64 := 500
deriving DecidableEq, Repr

/-- The values that were given. -/
structure Given where
  listenAddress : Option SocketAddress := none
  master : Option String := none
  username : Option String := none
  password : Option String := none
  clusterNamespace : Option String := none
  publicIps : Option (List String) := none
  adapterVersion : Option String := none
  teardownTimeoutSecs : Option UInt64 := none
  pollIntervalMillis : Option UInt64 := none
deriving DecidableEq, Repr

/-- The digits of a text, after a plus sign that may precede them. -/
def unsignedDigits? (s : String) : Option (List Char) :=
  let cs := match s.toList with
    | '+' :: rest => rest
    | cs => cs
  if cs.isEmpty || !cs.all Char.isDigit then none else some cs

/-- Reads a number of 64 bits. -/
def parseUInt64? (s : String) : Option UInt64 :=
  (unsignedDigits? s).bind fun cs =>
    let n := Decimal.value cs
    if n < UInt64.size then some (UInt64.ofNat n) else none

namespace Given

/-- A value was given for the flag. -/
def has (g : Given) : Flag → Bool
  | .listenAddress => g.listenAddress.isSome
  | .master => g.master.isSome
  | .username => g.username.isSome
  | .password => g.password.isSome
  | .clusterNamespace => g.clusterNamespace.isSome
  | .publicIps => g.publicIps.isSome
  | .adapterVersion => g.adapterVersion.isSome
  | .teardownTimeout => g.teardownTimeoutSecs.isSome
  | .pollInterval => g.pollIntervalMillis.isSome

/-- Enters a value for a flag, if it is one that the flag takes. Public addresses come in groups,
separated by commas, and add up. -/
def enter (g : Given) (flag : Flag) (value : String) : Option Given :=
  match flag with
  | .listenAddress => (SocketAddress.parse? value).map fun v => { g with listenAddress := some v }
  | .master => some { g with master := some value }
  | .username => some { g with username := some value }
  | .password => some { g with password := some value }
  | .clusterNamespace => some { g with clusterNamespace := some value }
  | .publicIps => some { g with publicIps := some (g.publicIps.getD [] ++ Text.split ',' value) }
  | .adapterVersion => some { g with adapterVersion := some value }
  | .teardownTimeout => (parseUInt64? value).map fun v => { g with teardownTimeoutSecs := some v }
  | .pollInterval => (parseUInt64? value).map fun v => { g with pollIntervalMillis := some v }

/-- The options, with defaults for what was not given. -/
def toOptions (g : Given) : Options where
  listenAddress := g.listenAddress.getD defaultListenAddress
  master := g.master
  username := g.username
  password := g.password
  clusterNamespace := g.clusterNamespace.getD "default"
  publicIps := g.publicIps.getD []
  adapterVersion := g.adapterVersion.getD programVersion
  teardownTimeoutSecs := g.teardownTimeoutSecs.getD 10
  pollIntervalMillis := g.pollIntervalMillis.getD 500

end Given

namespace Options

/-- The public addresses without blanks around them; those that are nothing but blank do not
count. -/
def externalIps (o : Options) : List String :=
  (o.publicIps.map Text.trim).filter fun ip => !ip.isEmpty

/-- The configuration of the adapter. -/
def config (o : Options) : Config :=
  let named : Config := { clusterNamespace := o.clusterNamespace }
  ((named.withVersion o.adapterVersion).withExternalIps o.externalIps).withTeardown (.ofSeconds o.teardownTimeoutSecs) (.ofMillis o.pollIntervalMillis)

end Options

end Stevedore
