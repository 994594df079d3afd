import Stevedore.Backend.Api
import Stevedore.Backend.Endpoint
import Stevedore.Backend.Store
import Stevedore.Http.Router
import Stevedore.Json.Tree
import Stevedore.Main
import Stevedore.Options.Help
import Stevedore.Proofs.Exposure.Ownership
import Stevedore.Proofs.Exposure.Precedence
import Stevedore.Proofs.Exposure.Reordering
import Stevedore.Proofs.Exposure.Routing
import Stevedore.Proofs.Name
import Stevedore.Proofs.Name.NormalForm
import Stevedore.Proofs.Decimal
import Stevedore.Proofs.Transcript
import Stevedore.Proofs.Json.Text
import Stevedore.Proofs.Json.Grammar
import Stevedore.Proofs.Json.Scalars
import Stevedore.Proofs.Json.Composite
import Stevedore.Proofs.Json.Members
import Stevedore.Proofs.Json.Tree
import Stevedore.Proofs.Json.Skip
import Stevedore.Proofs.Json.Extent
import Stevedore.Proofs.Json.Form
import Stevedore.Proofs.Json.Spelling
import Stevedore.Proofs.Json.Repeats
import Stevedore.Proofs.Cluster.Json
import Stevedore.Proofs.Http.Bodies
import Stevedore.Proofs.Text.Percent
import Stevedore.Proofs.Http.Paths
import Stevedore.Proofs.Http.Front
import Stevedore.Proofs.Interleaving
import Stevedore.Proofs.Backend.Store
import Stevedore.Proofs.Backend.Names
import Stevedore.Proofs.Backend.Balance
import Stevedore.Proofs.Backend.Faults
import Stevedore.Proofs.Backend.Addresses
import Stevedore.Proofs.Backend.Responses
import Stevedore.Proofs.Lifecycle.Creation
import Stevedore.Proofs.Lifecycle.Removal
import Stevedore.Proofs.Lifecycle.CreationInMemory
import Stevedore.Proofs.Lifecycle.RemovalInMemory
import Stevedore.Proofs.Lifecycle.Retry
import Stevedore.Proofs.Lifecycle.RemovalOfCreated
import Stevedore.Proofs.Lifecycle.Recovery
import Stevedore.Proofs.Lifecycle.Requests
import Stevedore.Proofs.Lifecycle.Concurrency
import Stevedore.Proofs.Adapter.Actions
import Stevedore.Proofs.Adapter.Listing
import Stevedore.Proofs.Adapter.Reachable
import Stevedore.Proofs.Adapter.Agreement
import Stevedore.Proofs.Adapter.Failures
import Stevedore.Proofs.Http.Failures
import Stevedore.Proofs.Http.Returned
import Stevedore.Proofs.Adapter.Scope
import Stevedore.Proofs.Exposure.Selection
import Stevedore.Proofs.Lifecycle.Waiting
import Stevedore.Proofs.Service
import Stevedore.Proofs.Configuration
import Stevedore.Proofs.Lifecycle.Deadline
import Stevedore.Proofs.Backend.Reference
import Stevedore.Proofs.Adapter.Exchanges
import Stevedore.Proofs.Adapter.WireRemoval
import Stevedore.Proofs.Status
import Stevedore.Proofs.Configuration.Json
import Stevedore.Proofs.Options.PublicAddresses
import Stevedore.Proofs.Duration
import Stevedore.Proofs.Options.CommandLine
import Stevedore.Proofs.Options.Resolution
import Stevedore.Proofs.Options.Precedence
