import CollectionSearch.Catalog
import CollectionSearch.Fault
import CollectionSearch.Host
import CollectionSearch.Import.Record
import CollectionSearch.Import.Snapshot
import CollectionSearch.Json.Reader
import CollectionSearch.Json.Value
import CollectionSearch.Main
import CollectionSearch.Match.Closeness
import CollectionSearch.Match.Ranking
import CollectionSearch.Number.Basic
import CollectionSearch.Number.Reading
import CollectionSearch.Proofs.Catalog
import CollectionSearch.Proofs.Host
import CollectionSearch.Proofs.Import.Division
import CollectionSearch.Proofs.Import.Line
import CollectionSearch.Proofs.Import.Locality
import CollectionSearch.Proofs.Import.Normal
import CollectionSearch.Proofs.Import.Record
import CollectionSearch.Proofs.Import.Snapshot
import CollectionSearch.Proofs.Import.Soundness
import CollectionSearch.Proofs.Import.Spelling
import CollectionSearch.Proofs.Json
import CollectionSearch.Proofs.Match.Bounds
import CollectionSearch.Proofs.Match.Comparison
import CollectionSearch.Proofs.Match.Containing
import CollectionSearch.Proofs.Match.Declared
import CollectionSearch.Proofs.Match.Evaluable
import CollectionSearch.Proofs.Match.Leftmost
import CollectionSearch.Proofs.Match.Ranking
import CollectionSearch.Proofs.Match.Selection
import CollectionSearch.Proofs.Match.Tiers
import CollectionSearch.Proofs.Match.Variant
import CollectionSearch.Proofs.Number.Case
import CollectionSearch.Proofs.Number.Numeral
import CollectionSearch.Proofs.Number.Range
import CollectionSearch.Proofs.Occurrence
import CollectionSearch.Proofs.Outcome
import CollectionSearch.Proofs.Query.Case
import CollectionSearch.Proofs.Query.Chains
import CollectionSearch.Proofs.Query.Clauses
import CollectionSearch.Proofs.Query.Composition
import CollectionSearch.Proofs.Query.Cut
import CollectionSearch.Proofs.Query.Layout
import CollectionSearch.Proofs.Query.Plain
import CollectionSearch.Proofs.Query.Quoting
import CollectionSearch.Proofs.Query.Refusal
import CollectionSearch.Proofs.Query.Settling
import CollectionSearch.Proofs.Query.Shape
import CollectionSearch.Proofs.Query.Spans
import CollectionSearch.Proofs.Query.WellFormed
import CollectionSearch.Proofs.Query.Word
import CollectionSearch.Proofs.Search.Casing
import CollectionSearch.Proofs.Search.Confinement
import CollectionSearch.Proofs.Search.Criteria
import CollectionSearch.Proofs.Search.Exclusion
import CollectionSearch.Proofs.Search.Narrowing
import CollectionSearch.Proofs.Search.Reordering
import CollectionSearch.Proofs.Search.Widening
import CollectionSearch.Proofs.Sequence
import CollectionSearch.Proofs.Service.Listing
import CollectionSearch.Proofs.Service.Rows
import CollectionSearch.Proofs.Service.Searchable
import CollectionSearch.Proofs.Service.Serving
import CollectionSearch.Proofs.Service.Session
import CollectionSearch.Proofs.Service.Settings
import CollectionSearch.Proofs.Text.Agreement
import CollectionSearch.Proofs.Text.Ascii
import CollectionSearch.Proofs.Text.Lowering
import CollectionSearch.Proofs.Text.Splitting
import CollectionSearch.Proofs.Text.Trimming
import CollectionSearch.Query.Filter
import CollectionSearch.Query.Parsed
import CollectionSearch.Query.Token
import CollectionSearch.Service.Engine
import CollectionSearch.Service.Listing
import CollectionSearch.Service.Server
import CollectionSearch.Text.Basic
import CollectionSearch.Text.Case
import CollectionSearch.Text.Quoted
import CollectionSearch.Text.Utf8
