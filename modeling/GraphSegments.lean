import GraphSegments.Binary
import GraphSegments.Binary.Literal
import GraphSegments.Binary.Shortest
import GraphSegments.Comparator
import GraphSegments.Configuration
import GraphSegments.Configuration.Place
import GraphSegments.Criteria
import GraphSegments.Criteria.Fold
import GraphSegments.Criteria.NormalForm
import GraphSegments.Criteria.Normalizer
import GraphSegments.Database
import GraphSegments.Database.Datum
import GraphSegments.Database.Matching
import GraphSegments.Database.Numeral
import GraphSegments.Database.Record
import GraphSegments.Dictionary
import GraphSegments.Digest
import GraphSegments.Double
import GraphSegments.Double.Pair
import GraphSegments.Error
import GraphSegments.Json
import GraphSegments.Json.Configurations
import GraphSegments.Json.Criteria
import GraphSegments.Json.Number
import GraphSegments.Json.Ontologies
import GraphSegments.Json.Queries
import GraphSegments.Json.Reader
import GraphSegments.Json.Shape
import GraphSegments.Json.Values
import GraphSegments.Object
import GraphSegments.Ontology
import GraphSegments.Path
import GraphSegments.Proofs.Agreement
import GraphSegments.Proofs.Configurations
import GraphSegments.Proofs.Criteria.Correspondence
import GraphSegments.Proofs.Criteria.Extents
import GraphSegments.Proofs.Criteria.Meaning
import GraphSegments.Proofs.Criteria.NormalForm
import GraphSegments.Proofs.Criteria.Normalizers
import GraphSegments.Proofs.Criteria.Stability
import GraphSegments.Proofs.Database.Bindings
import GraphSegments.Proofs.Database.Indexes
import GraphSegments.Proofs.Database.Records
import GraphSegments.Proofs.Database.Saving
import GraphSegments.Proofs.Database.Shrinking
import GraphSegments.Proofs.Dictionaries
import GraphSegments.Proofs.Json.Criteria
import GraphSegments.Proofs.Json.Shapes
import GraphSegments.Proofs.Lists
import GraphSegments.Proofs.Objects.Comparisons
import GraphSegments.Proofs.Objects.Refinement
import GraphSegments.Proofs.Objects.Satisfaction
import GraphSegments.Proofs.Ontology.Descendants
import GraphSegments.Proofs.Ontology.Hierarchies
import GraphSegments.Proofs.Ontology.Imports
import GraphSegments.Proofs.Ontology.Namespaces
import GraphSegments.Proofs.Ontology.Rewriting
import GraphSegments.Proofs.Results
import GraphSegments.Proofs.Search.Acceptance
import GraphSegments.Proofs.Search.Answers
import GraphSegments.Proofs.Search.BestHits
import GraphSegments.Proofs.Search.Blindness
import GraphSegments.Proofs.Search.Cells
import GraphSegments.Proofs.Search.Columns
import GraphSegments.Proofs.Search.Compiled
import GraphSegments.Proofs.Search.Complements
import GraphSegments.Proofs.Search.Composition
import GraphSegments.Proofs.Search.Conditions
import GraphSegments.Proofs.Search.Congruence
import GraphSegments.Proofs.Search.Dialects
import GraphSegments.Proofs.Search.Dialogues
import GraphSegments.Proofs.Search.Echoes
import GraphSegments.Proofs.Search.Fetching
import GraphSegments.Proofs.Search.Folding
import GraphSegments.Proofs.Search.Folds
import GraphSegments.Proofs.Search.Gathering
import GraphSegments.Proofs.Search.Leaves
import GraphSegments.Proofs.Search.LetterCase
import GraphSegments.Proofs.Search.Listing
import GraphSegments.Proofs.Search.Merging
import GraphSegments.Proofs.Search.Mirrors
import GraphSegments.Proofs.Search.Modes
import GraphSegments.Proofs.Search.Placement
import GraphSegments.Proofs.Search.Probing
import GraphSegments.Proofs.Search.Questions
import GraphSegments.Proofs.Search.Ranking
import GraphSegments.Proofs.Search.Reading
import GraphSegments.Proofs.Search.Rearrangement
import GraphSegments.Proofs.Search.Segments
import GraphSegments.Proofs.Search.SetAlgebra
import GraphSegments.Proofs.Search.Spellings
import GraphSegments.Proofs.Search.Templates
import GraphSegments.Proofs.Search.Texts
import GraphSegments.Proofs.Search.Transcripts
import GraphSegments.Proofs.Search.Transparency
import GraphSegments.Proofs.Search.TypeFolds
import GraphSegments.Proofs.Search.UriSets
import GraphSegments.Proofs.Search.Versions
import GraphSegments.Proofs.Selection
import GraphSegments.Proofs.Sorting
import GraphSegments.Proofs.Sql.Parameters
import GraphSegments.Proofs.Sql.Placeholders
import GraphSegments.Proofs.Store.Catalog
import GraphSegments.Proofs.Store.Changes
import GraphSegments.Proofs.Store.Consistency
import GraphSegments.Proofs.Store.Deletion
import GraphSegments.Proofs.Store.DistinctValues
import GraphSegments.Proofs.Store.Holdings
import GraphSegments.Proofs.Store.Homes
import GraphSegments.Proofs.Store.Isolation
import GraphSegments.Proofs.Store.Lifetimes
import GraphSegments.Proofs.Store.Loads
import GraphSegments.Proofs.Store.LongTexts
import GraphSegments.Proofs.Store.Pages
import GraphSegments.Proofs.Store.ReadBack
import GraphSegments.Proofs.Store.Replacement
import GraphSegments.Proofs.Store.Requests
import GraphSegments.Proofs.Store.Scans
import GraphSegments.Proofs.Store.SegmentOrder
import GraphSegments.Proofs.Store.Tables
import GraphSegments.Proofs.Store.Transactions
import GraphSegments.Proofs.Table.Batches
import GraphSegments.Proofs.Table.Cardinality
import GraphSegments.Proofs.Table.Deferral
import GraphSegments.Proofs.Table.Encoding
import GraphSegments.Proofs.Table.Grouping
import GraphSegments.Proofs.Table.Names
import GraphSegments.Proofs.Table.Readability
import GraphSegments.Proofs.Table.Reading
import GraphSegments.Proofs.Table.Recovery
import GraphSegments.Proofs.Table.Relaxing
import GraphSegments.Proofs.Table.RepeatedSaving
import GraphSegments.Proofs.Table.Resaving
import GraphSegments.Proofs.Table.RoundTrip
import GraphSegments.Proofs.Table.RowOrder
import GraphSegments.Proofs.Table.Soundness
import GraphSegments.Proofs.Table.Streaming
import GraphSegments.Proofs.Table.Substitution
import GraphSegments.Proofs.Table.WellFormed
import GraphSegments.Proofs.Table.Writing
import GraphSegments.Proofs.Text.Cuts
import GraphSegments.Proofs.Text.Numerals
import GraphSegments.Proofs.Text.Points
import GraphSegments.Proofs.Text.Suffixes
import GraphSegments.Proofs.Text.Versions
import GraphSegments.Proofs.Values.Exactness
import GraphSegments.Proofs.Values.Order
import GraphSegments.Proofs.Values.OrderedSets
import GraphSegments.Proofs.Values.Representatives
import GraphSegments.Proofs.Values.WholeNumbers
import GraphSegments.Query
import GraphSegments.Search.Accumulator
import GraphSegments.Search.Answer
import GraphSegments.Search.Composition
import GraphSegments.Search.Dialogue
import GraphSegments.Search.Fetching
import GraphSegments.Search.Leaf
import GraphSegments.Search.Loading
import GraphSegments.Search.Matching
import GraphSegments.Search.Ranking
import GraphSegments.Search.UriSet
import GraphSegments.Sql.Command
import GraphSegments.Sql.Condition
import GraphSegments.Sql.Depth
import GraphSegments.Sql.Dialect
import GraphSegments.Sql.Literal
import GraphSegments.Sql.Param
import GraphSegments.Sql.Printer
import GraphSegments.Sql.Statement
import GraphSegments.Sql.Token
import GraphSegments.Store
import GraphSegments.Store.Objects
import GraphSegments.Store.Opening
import GraphSegments.Store.Scan
import GraphSegments.Store.Segments
import GraphSegments.Store.Transactions
import GraphSegments.Table.Column
import GraphSegments.Table.FullText
import GraphSegments.Table.Name
import GraphSegments.Table.Overflow
import GraphSegments.Table.Reading
import GraphSegments.Table.Row
import GraphSegments.Table.Stream
import GraphSegments.Table.Writing
import GraphSegments.Text.Blank
import GraphSegments.Text.Case
import GraphSegments.Text.CaseTable
import GraphSegments.Text.Cut
import GraphSegments.Text.Hexadecimal
import GraphSegments.Text.HiddenTable
import GraphSegments.Text.Percent
import GraphSegments.Text.Quoted
import GraphSegments.Value
import GraphSegments.Value.Point
import GraphSegments.Version
import GraphSegments.Vocabulary
