import FilterQuery.Disk.Tree
import FilterQuery.Main
import FilterQuery.Proofs.Criterion.Order
import FilterQuery.Proofs.Sql.Expression
import FilterQuery.Proofs.Traversal
import FilterQuery.Proofs.Sql.Reading
import FilterQuery.Proofs.Sql.Clause
import FilterQuery.Proofs.Sql.Meaning
import FilterQuery.Proofs.Criterion.Predicate
import FilterQuery.Proofs.Criterion.Meaning
import FilterQuery.Proofs.FilterMap.Criteria
import FilterQuery.Proofs.Query.Text
import FilterQuery.Proofs.Query.Meaning
import FilterQuery.Proofs.Query.Placeholders
import FilterQuery.Proofs.FilterMap.Problem
import FilterQuery.Proofs.Query.Problems
import FilterQuery.Proofs.Criterion.Shape
import FilterQuery.Proofs.Query.Noninterference
import FilterQuery.Proofs.Criterion.Recovery
import FilterQuery.Proofs.Query.Recovery
import FilterQuery.Proofs.Query.Enumeration
import FilterQuery.Proofs.Query.Restriction
import FilterQuery.Proofs.Sql.Scope
import FilterQuery.Proofs.Query.Scope
import FilterQuery.Proofs.Json.Token
import FilterQuery.Proofs.Json.Node
import FilterQuery.Proofs.Json.Number
import FilterQuery.Proofs.Json.Quoted
import FilterQuery.Proofs.Json.Container
import FilterQuery.Proofs.Json.Skip
import FilterQuery.Proofs.Json.Read
import FilterQuery.Proofs.FilterMap.Payload
import FilterQuery.Proofs.FilterMap.Parse
import FilterQuery.Proofs.Json.Numeral
import FilterQuery.Proofs.Json.Writer
import FilterQuery.Proofs.Session.Output
import FilterQuery.Proofs.Settings.Document
import FilterQuery.Proofs.Settings.Layers
import FilterQuery.Proofs.Criterion.Stability
import FilterQuery.Proofs.FilterMap.Repetition
import FilterQuery.Proofs.Query.Canonical
import FilterQuery.Proofs.Query.Paging
import FilterQuery.Proofs.FilterMap.Continuation
import FilterQuery.Proofs.Criterion.Cast
import FilterQuery.Proofs.Sql.Layout
import FilterQuery.Proofs.Query.Layout
import FilterQuery.Proofs.Sql.Display
import FilterQuery.Proofs.Path.Expansion
import FilterQuery.Proofs.Path.Components
import FilterQuery.Proofs.CommandLine.Parse
import FilterQuery.Proofs.CommandLine.Reading
import FilterQuery.Proofs.Json.Extent
import FilterQuery.Proofs.Json.Whole
import FilterQuery.Proofs.Firsts
import FilterQuery.Proofs.Settings.Members
import FilterQuery.Proofs.Settings.Unknown
import FilterQuery.Proofs.Sql.Scan
import FilterQuery.Proofs.Sql.Fragment
import FilterQuery.Proofs.Sql.Assembly
import FilterQuery.Proofs.Criterion.Condition
import FilterQuery.Proofs.Decimal.Literal
import FilterQuery.Proofs.Decimal.Real
import FilterQuery.Proofs.Binary64.Grid
import FilterQuery.Proofs.Binary64.Nearest
import FilterQuery.Proofs.Criterion.Spelling
import FilterQuery.Proofs.Disk.Tree
