import Stevedore.Options.Parse
/-!
# Texts about the options

Main definitions: `Options.usage`, `Options.versionText` and `Options.Refusal.text`.
-/

namespace Stevedore

namespace Flag

/-- What an option is for. -/
def purpose : Flag → String
  | listenAddress => "Address to listen on (0.0.0.0:8001)"
  | master => "URL of the cluster's API"
  | username => "User name for the cluster's API"
  | password => "Password for the cluster's API"
  | clusterNamespace => "Namespace that services are deployed into (default)"
  | publicIps => "Addresses attached to every network service, separated by commas"
  | adapterVersion => "Version that is reported"
  | teardownTimeout => "Seconds that a removal waits for its pods to end (10)"
  | pollInterval => "Milliseconds between two looks at the pods (500)"

/-- The line about an option. -/
def usageLine (f : Flag) : String :=
  "  --" ++ f.long ++ " <" ++ f.variableName ++ ">  " ++ f.purpose ++ "\n"

end Flag

namespace Options

/-- The name of the program. -/
def programName : String := "stevedore"

/-- The text that is asked for with `--help`. -/
def usage : String :=
  "Deploys services to a cluster\n\nUsage: " ++ programName ++ " [OPTIONS]\n\nOptions:\n" ++
    String.join (Flag.all.map Flag.usageLine) ++ "  -h, --help\n  -V, --version\n"

/-- The text that is asked for with `--version`. -/
def versionText : String := programName ++ " " ++ programVersion ++ "\n"

/-- The text shown instead of starting. -/
def Refusal.text : Refusal → String
  | help => usage
  | version => versionText
  | unknownArgument => "unexpected argument\n"
  | missingValue => "an option lacks its value\n"
  | badValue => "the value of an option is not acceptable\n"
  | repeatedFlag => "an option was given twice\n"
  | needlessValue => "an option takes no value\n"

/-- The text was asked for. -/
def Refusal.isRequest (r : Refusal) : Bool := r == help || r == version

end Options

end Stevedore
