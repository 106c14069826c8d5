import RecordQuery.Filter.Text
import RecordQuery.Filter.Coding
import RecordQuery.Record.Registry
import RecordQuery.Query.Run
import RecordQuery.CommandLine.Job
import RecordQuery.Reference.Arguments
import RecordQuery.Reference.Engine
import RecordQuery.Reference.Format
import RecordQuery.Reference.LogFilter
import RecordQuery.Main
import RecordQuery.Proofs.Filter.Reparsing
import RecordQuery.Proofs.Query.DeniedField
import RecordQuery.Proofs.Query.UnsortableField
import RecordQuery.Proofs.Filter.Language
import RecordQuery.Proofs.Filter.Compilation
import RecordQuery.Proofs.Filter.Verdict
import RecordQuery.Proofs.Filter.Preparation
import RecordQuery.Proofs.Query.Matching
import RecordQuery.Proofs.Query.Pages
import RecordQuery.Proofs.Query.Comparing
import RecordQuery.Proofs.Query.Stability
import RecordQuery.Proofs.Query.Outcome
import RecordQuery.Proofs.Filter.Composing
import RecordQuery.Proofs.Filter.Limits
import RecordQuery.Proofs.Json.Reading
import RecordQuery.Proofs.Reference.Reading
import RecordQuery.Proofs.Json.Decoding
import RecordQuery.Proofs.Filter.Decoding
import RecordQuery.Proofs.Query.Refusal
import RecordQuery.Proofs.CommandLine.Outcome
import RecordQuery.Proofs.Query.Repeating
import RecordQuery.Proofs.Query.Records
import RecordQuery.Proofs.Filter.Blame
import RecordQuery.Proofs.Query.Criteria
import RecordQuery.Proofs.Query.Following
import RecordQuery.Proofs.Json.Rearranging
import RecordQuery.Proofs.Query.MemberOrder
import RecordQuery.Proofs.Filter.Negation
import RecordQuery.Proofs.Filter.Locality
import RecordQuery.Proofs.Query.Numbers
import RecordQuery.Proofs.Filter.Missing
import RecordQuery.Proofs.Query.Restricting
import RecordQuery.Proofs.Filter.Comparisons
import RecordQuery.Proofs.Query.Threshold
import RecordQuery.Proofs.Filter.Lexicon
import RecordQuery.Proofs.Filter.Tiling
import RecordQuery.Proofs.Filter.Respacing
import RecordQuery.Proofs.Query.Clauses
import RecordQuery.Proofs.Record.Declarations
import RecordQuery.Proofs.Record.Registering
import RecordQuery.Proofs.Query.Requests
import RecordQuery.Proofs.Query.TableText
import RecordQuery.Proofs.Filter.Depth
import RecordQuery.Proofs.Filter.Calls
