import RecordQuery.Filter.Parser
import RecordQuery.Filter.Evaluation
import RecordQuery.Query.Paging
import RecordQuery.Query.Policy
import RecordQuery.Query.Lines
/-!
# Queries — filtering, sorting and paging records

A query is read from four texts and run over a list of documents. The filter is
evaluated on every record, in the order of the records, before anything else
happens; then the matching ones are sorted, and the page is cut out of them.
-/

namespace RecordQuery

open Json

/-- The texts of a query. -/
structure QueryText where
  filter : String
  orderBy : String
  limit : String
  offset : String
deriving DecidableEq, Repr

/-- A query that is ready to run. -/
structure Query [PatternEngine] where
  filter : PreparedFilter
  sorting : Sorting
  pagination : Pagination

/-- Why a query fails: a text that cannot be read, a policy that cannot be
read or does not permit the query, or records that cannot be read or do not
fit the filter. Of a file that cannot be read there is the cause that the
system gives, and of a text that is no table the report of the format. -/
inductive QueryError where
  | filter (cause : ParseError)
  | pattern (cause : EvalError)
  | sorting (cause : SortingError)
  | paging (cause : PagingError)
  | noPolicy (path cause : String)
  | badPolicy (path report : String)
  | notPermitted (object : String) (cause : PolicyError)
  | input (cause : LineError)
  | evaluation (record : Nat) (cause : EvalError)

/-- What failed. -/
def QueryError.message : QueryError → String
  | filter _ => "invalid --filter"
  | pattern _ => "invalid --filter"
  | sorting _ => "invalid --order-by"
  | paging _ => "invalid --limit/--offset"
  | noPolicy path _ => "failed to read policy file " ++ path
  | badPolicy path _ => "invalid policy file " ++ path
  | notPermitted object _ => "query not permitted for " ++ object
  | input .notText => "failed to read input"
  | input (.notJson line _) => "line " ++ integerText line ++ " is not valid JSON"
  | evaluation record _ => "failed to evaluate record " ++ integerText record

/-- Why it failed. -/
def QueryError.cause : QueryError → String
  | filter e => e.message
  | pattern e => e.message
  | sorting e => e.message
  | paging e => e.message
  | noPolicy _ cause => cause
  | badPolicy _ report => report
  | notPermitted _ e => e.message
  | input .notText => "stream did not contain valid UTF-8"
  | input (.notJson _ report) => report
  | evaluation _ e => e.message

/-- The result, or the error of a step with what it was a step of. -/
def orFail {ε α : Type} (wrap : ε → QueryError) : Except ε α → Except QueryError α
  | .ok a => .ok a
  | .error e => .error (wrap e)

section Engine

variable [PatternEngine]

namespace Query

/-- Reads a query, its filter first. -/
def parse (text : QueryText) (config : Config) : Except QueryError Query := do
  let filter ← orFail .filter (parseFilter config.maxFilterDepth.toNat text.filter)
  let prepared ← orFail .pattern (PreparedFilter.prepare filter)
  let sorting ← orFail .sorting (parseSorting text.orderBy)
  let pagination ← orFail .paging (parsePagination text.limit text.offset "")
  return ⟨prepared, sorting, pagination⟩

/-- Checks a query against the policies of an object. -/
def authorize (q : Query) (table : PolicyTable) (object : String) : Except QueryError Unit :=
  orFail (.notPermitted object) (table.validate object q.filter.filter (some q.sorting))

/-- The matching ones of the records that have the numbers from some number
on. -/
def matching (filter : PreparedFilter) (number : Nat) : List Value →
    Except QueryError (List Value)
  | [] => .ok []
  | v :: rest =>
    match filter.verdict (.document v) with
    | .error e => .error (.evaluation number e)
    | .ok keep => do
      let others ← matching filter (number + 1) rest
      return if keep then v :: others else others

/-- Records in an order. Records that tie keep their places. -/
def sort (sorting : Sorting) (records : List Value) : List Value :=
  if sorting.criteria.isEmpty then records
  else records.mergeSort fun a b => sorting.le (.document a) (.document b)

/-- The records of the page that is asked for. -/
def window (p : Pagination) (c : Config) (records : List Value) : List Value :=
  (records.drop p.offset.toNat).take (p.effectiveLimit c).toNat

/-- The page of a query, and what comes with it. -/
def run (q : Query) (config : Config) (records : List Value) :
    Except QueryError (List Value × PageInfo) := do
  let found ← matching q.filter 1 records
  let page := window q.pagination config (sort q.sorting found)
  return (page, q.pagination.next config page.length)

end Query

end Engine

/-- The policies in the text of a file, or the cause of why there is no text. -/
def loadPolicy [Format] (path : String) (text : Except String String) :
    Except QueryError PolicyTable :=
  match text with
  | .error cause => .error (.noPolicy path cause)
  | .ok text =>
    match PolicyTable.ofJson? text with
    | some t => .ok t
    | none => .error (.badPolicy path (Format.report .policyTable text))

end RecordQuery
