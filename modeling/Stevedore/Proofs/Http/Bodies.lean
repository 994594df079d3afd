import Stevedore.Http.Response
import Stevedore.Deployment
import Stevedore.Proofs.Json.Members
import Stevedore.Proofs.Json.Tree
/-!
# The bodies of responses

What the server writes into a body is read back by whoever decodes it: the records of deployments, what
the adapter says about itself, and errors with every message.

Main results:

- Theorems `DeploymentRecord.readsBack`, `AdapterInfo.readsBack` and `Http.ErrorBody.readsBack`.
- Theorem `Http.decode_json`: the body of a response is decoded as what was written into it.
-/

namespace Stevedore

open Json (ReadsBack Reads reads_string)
open Json.Record (takes_mandatory readsBack_of_complete)

/-! ## Booleans -/

/-- A boolean is read back from its JSON. -/
theorem Json.reads_boolean (b : Bool) : Reads readBoolean (bytes (.boolean b)) b := by
  refine reads_atValue (opens_boolean b) fun rest p _ => ?_
  cases b with
  | true =>
      rw [bytes_true]
      exact ⟨_, rfl⟩
  | false =>
      rw [bytes_false]
      exact ⟨_, rfl⟩

/-! ## Records -/

/-- The record of a deployment is read back from its JSON. -/
theorem DeploymentRecord.readsBack : ReadsBack record.read toJson := by
  refine readsBack_of_complete (fun d => ?_) fun d => rfl
  refine takes_mandatory rfl (reads_string d.id) (by decide) ?_
  refine takes_mandatory rfl (reads_string d.state) (by decide) ?_
  exact .nil _ d

/-- What the adapter says about itself is read back from its JSON. -/
theorem AdapterInfo.readsBack : ReadsBack record.read toJson := by
  refine readsBack_of_complete (fun i => ?_) fun i => rfl
  refine takes_mandatory rfl (reads_string i.version) (by decide) ?_
  refine takes_mandatory rfl (reads_string i.kind) (by decide) ?_
  refine takes_mandatory rfl (Json.reads_boolean i.healthy) (by decide) ?_
  exact .nil _ i

namespace Http

/-- The body of an error response is read back from its JSON. -/
theorem ErrorBody.readsBack : ReadsBack record.read toJson := by
  refine readsBack_of_complete (fun b => ?_) fun b => rfl
  refine takes_mandatory rfl (reads_string b.error) (by decide) ?_
  refine takes_mandatory rfl (reads_string b.message) (by decide) ?_
  exact .nil _ b

/-! ## Responses -/

/-- The body of a response is decoded as what was written into it. -/
theorem decode_json {read : Json.Reader α} {write : α → Json} (h : ReadsBack read write)
    (status : Nat) (a : α) :
    Json.decodeString read (Response.json status (write a)).body = .ok a :=
  Json.decodeString_of_reads (h a).1

end Http

end Stevedore
