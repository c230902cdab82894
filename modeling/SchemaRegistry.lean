import SchemaRegistry.Http.Router
import SchemaRegistry.Settings.Coercion
import SchemaRegistry.Proofs.Catalog.Reading
import SchemaRegistry.Proofs.Catalog.Decision
import SchemaRegistry.Proofs.Catalog.Order
import SchemaRegistry.Proofs.Log.History
import SchemaRegistry.Cluster.Run
import SchemaRegistry.Node.Desk
import SchemaRegistry.Node.Fleet
import SchemaRegistry.Proofs.Catalog.Imprint
import SchemaRegistry.Proofs.Cluster.Call
import SchemaRegistry.Proofs.Cluster.Deletion
import SchemaRegistry.Proofs.Cluster.Run
import SchemaRegistry.Proofs.Node.Alone
import SchemaRegistry.Proofs.Node.Fence
import SchemaRegistry.Proofs.Node.Serial
import SchemaRegistry.Proofs.Catalog.Growth
import SchemaRegistry.Proofs.Catalog.Settled
import SchemaRegistry.Node.Relay
import SchemaRegistry.Proofs.Node.Retry
import SchemaRegistry.Node.Feed
import SchemaRegistry.Proofs.Log.View
import SchemaRegistry.Proofs.Node.View
import SchemaRegistry.Proofs.Node.Whole
import SchemaRegistry.Proofs.Json.Shape
import SchemaRegistry.Http.Mount
import SchemaRegistry.Proofs.Http.Forward
import SchemaRegistry.Node.Calls
import SchemaRegistry.Proofs.Cluster.Names
import SchemaRegistry.Proofs.Http.Relay
import SchemaRegistry.Proofs.Json.Tagged
import SchemaRegistry.Proofs.Log.Ledger
import SchemaRegistry.Proofs.Json.Members
import SchemaRegistry.Proofs.Catalog.Again
import SchemaRegistry.Proofs.Cluster.Again
import SchemaRegistry.Proofs.Log.Lifecycle
import SchemaRegistry.Proofs.Catalog.Cache
import SchemaRegistry.Proofs.Cluster.Lookup
import SchemaRegistry.Proofs.Cluster.Agree
import SchemaRegistry.Proofs.Schema.Lines
import SchemaRegistry.Proofs.Schema.Document
import SchemaRegistry.Proofs.Catalog.Listing
import SchemaRegistry.Proofs.Catalog.Normalized
import SchemaRegistry.Proofs.Http.Whitelist
import SchemaRegistry.Proofs.Catalog.Inventory
