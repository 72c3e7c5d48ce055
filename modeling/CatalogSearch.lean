import CatalogSearch.Index.Finder
import CatalogSearch.Index.Push
import CatalogSearch.Index.Rehearsal
import CatalogSearch.Rest.Connection
import CatalogSearch.Schema.Same
import CatalogSearch.Proofs.Filter.Meaning
import CatalogSearch.Proofs.Filter.Pruning
import CatalogSearch.Proofs.FirstFault
import CatalogSearch.Proofs.Schema.Idempotence
import CatalogSearch.Proofs.Filter.Aliases
import CatalogSearch.Proofs.Index.Runs
import CatalogSearch.Proofs.Index.Answers
import CatalogSearch.Proofs.Index.Convergence
import CatalogSearch.Proofs.Index.Coherence
import CatalogSearch.Proofs.Index.Interleaving
import CatalogSearch.Proofs.Index.Freshness
import CatalogSearch.Proofs.Index.FieldLimit
import CatalogSearch.Proofs.Index.Discipline
import CatalogSearch.Proofs.Schema.RoundTrip
import CatalogSearch.Proofs.Strict
import CatalogSearch.Proofs.Sort.Ranking
import CatalogSearch.Proofs.Sort.Order
import CatalogSearch.Proofs.Sort.Targets
import CatalogSearch.Proofs.Filter.Shape
import CatalogSearch.Proofs.Filter.GroupKeys
import CatalogSearch.Proofs.Query.Wire
import CatalogSearch.Proofs.Query.Options
import CatalogSearch.Proofs.Schema.Growth
import CatalogSearch.Proofs.Schema.Addresses
import CatalogSearch.Proofs.Filter.Sections
import CatalogSearch.Proofs.Schema.Documents
import CatalogSearch.Proofs.Filter.OneCondition
import CatalogSearch.Proofs.Filter.Substring
import CatalogSearch.Proofs.Filter.Between
import CatalogSearch.Proofs.Filter.DateRange
import CatalogSearch.Proofs.Filter.Several
import CatalogSearch.Proofs.Calendar.Forms
import CatalogSearch.Proofs.Calendar.Spellings
import CatalogSearch.Proofs.Filter.Keys
import CatalogSearch.Proofs.Schema.Integers
import CatalogSearch.Proofs.Schema.Untouched
import CatalogSearch.Proofs.Schema.FixedFields
import CatalogSearch.Proofs.Schema.Table
import CatalogSearch.Proofs.Sort.Directives
import CatalogSearch.Proofs.Url.Segments
