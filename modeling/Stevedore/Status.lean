import Stevedore.Backend.Program
import Stevedore.Json.Record
import Stevedore.Workload
/-!
# The status of a deployment

A deployment is pending while fewer pods are observed than asked for. Once the numbers agree it is
running, and its pods are asked how many of them run. With more pods than asked for its status is
unknown.

Main definitions:

- `Status`: with its text and its JSON form.
- `Status.compute`: the status from the counts and the pods.
- `Status.ofController`: the program that finds the status of a controller.
-/

namespace Stevedore

open Cluster

/-- The status of a deployment. -/
inductive Status where
  | pending
  | running (running : Nat) (desired : Int32)
  | unknown
deriving DecidableEq, Repr

namespace Status

/-- The text of a status. -/
def text : Status → String
  | pending => "pending"
  | running n desired => "running " ++ Decimal.ofNat n ++ "/" ++ Decimal.ofInt desired.toInt
  | unknown => "unknown"

/-! ## JSON -/

/-- The JSON of a status: its name, with the two numbers where there are pods. -/
def toJson : Status → Json
  | pending => .string "Pending"
  | running n desired =>
    .object [("Running", .object [("running", .integer n), ("desired", .integer desired.toInt)])]
  | unknown => .string "Unknown"

/-- The counts of a running deployment. -/
def counts : Json.Record (Nat × Int32) where
  title := "struct variant DeploymentStatus::Running"
  initial := (0, 0)
  members := [
    .mandatory "running" Json.readCount fun v s => (v, s.2),
    .mandatory "desired" Json.readInt32 fun v s => (s.1, v)]

/-- How a status is read: by its name, with the two numbers where there are pods. -/
def read : Json.Reader Status :=
  Json.readVariant [
    ("Pending", .bare pending),
    ("Running", .record (counts.read.map fun (n, desired) => running n desired)),
    ("Unknown", .bare unknown)]

/-! ## Finding the status -/

/-- The pod reports that it runs. -/
def isRunning (p : Pod) : Bool := p.phase? == some "Running"

/-- The status from the number of pods asked for and observed, and the pods themselves. -/
def compute (desired actual : Int32) (pods : List Pod) : Status :=
  if actual < desired then pending
  else if desired < actual then unknown
  else running (pods.countP isRunning) desired

/-- How many pods a controller asks for; one where it does not say. -/
def desired (c : Controller) : Int32 := c.desired?.getD 1

/-- How many pods of a controller were observed. -/
def observed (c : Controller) : Int32 := c.observed?.getD 0

/-- Finds the status of a controller. The pods are listed only when the numbers agree; if that
fails, so does the program. -/
def ofController (c : Controller) : Program Status :=
  if observed c = desired c then do
    let pods ← Program.listPods (.forName c.nameOrEmpty)
    return compute (desired c) (observed c) pods
  else return compute (desired c) (observed c) []

end Status

end Stevedore
