import TableQuery.Number.Binary64
import TableQuery.Number.Decimal
import TableQuery.Number.Numeral
import TableQuery.Text.Case
import TableQuery.Text.Quoted
import TableQuery.Value.Printing
import TableQuery.Database.Problem
import TableQuery.Failure
import TableQuery.Fault
import TableQuery.Value.Conversion
import TableQuery.Sql.Select
import TableQuery.Files.Tree
import TableQuery.Settings.Expansion
import TableQuery.Log.Failures
import TableQuery.Sql.Statement
import TableQuery.Database.Answer
import TableQuery.Database.Opening
import TableQuery.Driver.Scripted
import TableQuery.Driver.Engine
import TableQuery.Model.Basic
import TableQuery.Query.Builder
import TableQuery.Database.Numeral
import TableQuery.Proofs.Structure
import TableQuery.Proofs.Sections
import TableQuery.Proofs.Announcements
import TableQuery.Proofs.Pages
import TableQuery.Proofs.Tables
import TableQuery.Proofs.Reals
import TableQuery.Proofs.Selection
import TableQuery.Proofs.Answers
import TableQuery.Proofs.Escaping
import TableQuery.Proofs.Counts
import TableQuery.Proofs.Previews
import TableQuery.Proofs.Propagation
import TableQuery.Proofs.Loading
import TableQuery.Proofs.Entries
import TableQuery.Proofs.Lines
import TableQuery.Proofs.Exchanges
import TableQuery.Proofs.Sharing
import TableQuery.Proofs.Bounds
import TableQuery.Proofs.Compilations
import TableQuery.Proofs.Hydration
import TableQuery.Proofs.Equality
import TableQuery.Proofs.Hashes
import TableQuery.Proofs.Attributes
import TableQuery.Proofs.Identity
import TableQuery.Proofs.Filters
import TableQuery.Proofs.Patterns
import TableQuery.Proofs.Replacements
import TableQuery.Proofs.Searches
import TableQuery.Proofs.Variants
import TableQuery.Proofs.Completeness
import TableQuery.Proofs.Heads
import TableQuery.Proofs.Escapes
import TableQuery.Proofs.Insertions
import TableQuery.Proofs.Retrievals
import TableQuery.Proofs.Nuls
import TableQuery.Proofs.Refusals
import TableQuery.Proofs.Margins
import TableQuery.Proofs.Rehydration
import TableQuery.Proofs.Literals
import TableQuery.Proofs.Directions
import TableQuery.Proofs.Timeouts
