import PagedTables.Frame
import PagedTables.Proofs.Filter.Additions
import PagedTables.Proofs.Filter.FirstOffence
import PagedTables.Proofs.Filter.Negation
import PagedTables.Proofs.Filter.Skeleton
import PagedTables.Proofs.Filter.TimeText
import PagedTables.Proofs.Query.Equality
import PagedTables.Proofs.Query.QueryString
import PagedTables.Proofs.Query.ServiceOptions
import PagedTables.Proofs.Query.Translation
import PagedTables.Proofs.Service.Lending
import PagedTables.Proofs.Service.Sessions
import PagedTables.Proofs.Service.Tokens
import PagedTables.Proofs.Service.Traffic
import PagedTables.Proofs.Service.Twins
import PagedTables.Proofs.Stream.LinkProtocol
import PagedTables.Proofs.Stream.Traversal
import PagedTables.Stream.Script
import PagedTables.Time.Seconds
import PagedTables.Proofs.Json.Members
import PagedTables.Proofs.Schema.Records
import PagedTables.Proofs.Schema.Projections
import PagedTables.Proofs.Schema.FullProjection
import PagedTables.Proofs.Schema.Navigation
import PagedTables.Proofs.Schema.StringFields
import PagedTables.Proofs.Schema.WireNames
import PagedTables.Proofs.Schema.CamelCase
import PagedTables.Proofs.Service.FailedResponses
import PagedTables.Proofs.Service.Retries
import PagedTables.Proofs.Service.Counting
import PagedTables.Proofs.Stream.Indexing
import PagedTables.Proofs.Filter.ClockText
