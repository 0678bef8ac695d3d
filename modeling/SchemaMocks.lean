import SchemaMocks.CommandLine.Run
import SchemaMocks.Config.Json
import SchemaMocks.Config.Schema
import SchemaMocks.Datamodel.Validation
import SchemaMocks.Generation.Run
import SchemaMocks.Generator.Input
import SchemaMocks.Main
import SchemaMocks.Mock.Sampler
import SchemaMocks.Pattern.Plan
import SchemaMocks.Request.Serve
import SchemaMocks.Source.Json
import SchemaMocks.Toml.Reader
import SchemaMocks.Proofs.Text.ByteOrder
import SchemaMocks.Proofs.Relations.Sorting
import SchemaMocks.Proofs.Relations.Order
import SchemaMocks.Proofs.Datamodel.Validation
import SchemaMocks.Proofs.Runs.Outcome
import SchemaMocks.Proofs.Sampling.Draws
import SchemaMocks.Proofs.Sampling.Expansion
import SchemaMocks.Proofs.Sampling.Ledger
import SchemaMocks.Proofs.Sampling.Uniqueness
import SchemaMocks.Proofs.Factories.Program
import SchemaMocks.Proofs.Factories.Evaluation
import SchemaMocks.Proofs.Factories.Supplied
import SchemaMocks.Proofs.Factories.Calls
import SchemaMocks.Proofs.Sampling.Outline
import SchemaMocks.Proofs.Factories.Agreement
import SchemaMocks.Proofs.Relations.Cycle
import SchemaMocks.Proofs.Json.Record
import SchemaMocks.Proofs.Datamodel.Default
import SchemaMocks.Proofs.Json.Fuller
import SchemaMocks.Proofs.Datamodel.RoundTrip
import SchemaMocks.Proofs.Layout.Paths
import SchemaMocks.Proofs.Text.Identifier
import SchemaMocks.Proofs.Code.Pieces
import SchemaMocks.Proofs.Code.Sections
import SchemaMocks.Proofs.Code.Scope
import SchemaMocks.Proofs.Code.Names
import SchemaMocks.Proofs.Layout.Declarations
import SchemaMocks.Proofs.Layout.Dependencies
import SchemaMocks.Proofs.Layout.Modules
import SchemaMocks.Proofs.Layout.References
import SchemaMocks.Proofs.Layout.LoadOrder
import SchemaMocks.Proofs.Binary64.Magnitude
import SchemaMocks.Proofs.Random.Range
import SchemaMocks.Proofs.Random.Wrapping
import SchemaMocks.Proofs.Random.Places
import SchemaMocks.Proofs.Sampling.Present
import SchemaMocks.Proofs.Sampling.Null
import SchemaMocks.Proofs.Factories.Nullability
import SchemaMocks.Proofs.Text.Folding
import SchemaMocks.Proofs.Factories.Checks
import SchemaMocks.Proofs.Unique.Search
import SchemaMocks.Proofs.Unique.History
import SchemaMocks.Proofs.Unique.Independence
import SchemaMocks.Proofs.Sampling.Effects
import SchemaMocks.Proofs.Sampling.Counters
import SchemaMocks.Proofs.Sampling.Counting
import SchemaMocks.Proofs.Sampling.Numbering
import SchemaMocks.Proofs.Config.Stated
import SchemaMocks.Proofs.Config.Reading
import SchemaMocks.Proofs.Storage.Steps
import SchemaMocks.Proofs.Storage.Tree
import SchemaMocks.Proofs.Storage.Writing
import SchemaMocks.Proofs.Storage.Batches
import SchemaMocks.Proofs.Storage.Confinement
import SchemaMocks.Proofs.Storage.Kinds
import SchemaMocks.Proofs.Json.Text
import SchemaMocks.Proofs.Request.Reading
import SchemaMocks.Proofs.Request.Serving
import SchemaMocks.Proofs.Config.Layering
import SchemaMocks.Proofs.Request.Agreement
import SchemaMocks.Proofs.Sampling.Lists
import SchemaMocks.Proofs.Binary64.Rounding
import SchemaMocks.Proofs.Binary64.Decimals
import SchemaMocks.Proofs.Json.Numbers
import SchemaMocks.Proofs.Json.Reading
import SchemaMocks.Proofs.Toml.Order
import SchemaMocks.Proofs.Config.Tables
import SchemaMocks.Proofs.Text.Lines
import SchemaMocks.Proofs.Directive.Marks
import SchemaMocks.Proofs.Directive.Patterns
import SchemaMocks.Proofs.Binary64.Integers
import SchemaMocks.Proofs.Directive.Canonical
import SchemaMocks.Proofs.Factories.Elements
import SchemaMocks.Proofs.Sampling.Ranges
import SchemaMocks.Proofs.Pattern.Sets
import SchemaMocks.Proofs.Text.FoldRuns
import SchemaMocks.Proofs.Pattern.Classes
import SchemaMocks.Proofs.Pattern.Languages
import SchemaMocks.Proofs.Pattern.Orderly
import SchemaMocks.Proofs.Pattern.Reduction
import SchemaMocks.Proofs.Pattern.Drawing
import SchemaMocks.Proofs.Code.Literals
import SchemaMocks.Proofs.Directive.Quoted
import SchemaMocks.Proofs.Calendar.Days
import SchemaMocks.Proofs.Calendar.Written
import SchemaMocks.Proofs.Sampling.Defaults
import SchemaMocks.Proofs.Factories.BigIntegers
import SchemaMocks.Proofs.Sampling.RecentDates
import SchemaMocks.Proofs.Sampling.Types
import SchemaMocks.Proofs.Datamodel.Places
import SchemaMocks.Proofs.Datamodel.Violations
import SchemaMocks.Proofs.Text.Alike
import SchemaMocks.Proofs.Pattern.Words
import SchemaMocks.Proofs.Semantics.Suggestions
import SchemaMocks.Proofs.Generation.Tally
import SchemaMocks.Proofs.Generation.Origins
import SchemaMocks.Proofs.Binary64.Overflow
import SchemaMocks.Proofs.Binary64.Numerals
import SchemaMocks.Proofs.Sampling.Literals
import SchemaMocks.Proofs.Sampling.Pools
