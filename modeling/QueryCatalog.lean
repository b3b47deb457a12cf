import QueryCatalog.Cache.Run
import QueryCatalog.Catalog.Session
import QueryCatalog.Database.Run
import QueryCatalog.Execution.Trace
import QueryCatalog.Main
import QueryCatalog.Proofs.Cache.Conservation
import QueryCatalog.Proofs.Cache.Contents
import QueryCatalog.Proofs.Cache.Interleaving
import QueryCatalog.Proofs.Cache.Nesting
import QueryCatalog.Proofs.Cache.Staleness
import QueryCatalog.Proofs.Catalog.Transparency
import QueryCatalog.Proofs.Binding.Coherence
import QueryCatalog.Proofs.Binding.LeftSlots
import QueryCatalog.Proofs.Template.RoundTrip
import QueryCatalog.Proofs.Merge.Grouping
import QueryCatalog.Proofs.Batch.Report
import QueryCatalog.Proofs.Template.Acceptance
import QueryCatalog.Proofs.Cache.UseOrder
import QueryCatalog.Proofs.Database.Atomicity
import QueryCatalog.Proofs.Merge.Streaming
import QueryCatalog.Proofs.Cache.Keys
import QueryCatalog.Proofs.Batch.RowByRow
import QueryCatalog.Proofs.Value.RoundTrip
import QueryCatalog.Proofs.Cache.Expiry
import QueryCatalog.Proofs.Catalog.CallTrace
import QueryCatalog.Proofs.Template.Memoization
import QueryCatalog.Proofs.Template.Locality
import QueryCatalog.Proofs.Binding.FilledTexts
import QueryCatalog.Proofs.Binding.Failure
import QueryCatalog.Proofs.Batch.Preflight
import QueryCatalog.Proofs.Cache.Counters
import QueryCatalog.Proofs.Merge.Keys
import QueryCatalog.Proofs.Execution.Hooks
import QueryCatalog.Proofs.Catalog.Coverage
import QueryCatalog.Proofs.Binding.Relevance
import QueryCatalog.Proofs.Cache.Filters
import QueryCatalog.Proofs.Catalog.Validation
import QueryCatalog.Proofs.Value.PlainForm
import QueryCatalog.Proofs.Batch.Partition
import QueryCatalog.Proofs.Template.Walk
import QueryCatalog.Proofs.Merge.InRange
