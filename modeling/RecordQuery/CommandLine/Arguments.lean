import RecordQuery.Query.Run
/-!
# Arguments — what the command line asks for

The words of a command line set parameters. Reading them is left to a library for command
lines, and so is how a line ends that sets none: one that asks for a text, such as help,
ends with that text, and one that is refused with a report and a status.
-/

namespace RecordQuery

/-! ## Parameters -/

/-- What can be set on the command line. -/
inductive Parameter where
  | filter
  | orderBy
  | limit
  | offset
  | policy
  | object
deriving DecidableEq, Repr

namespace Parameter

/-- All parameters. -/
def all : List Parameter := [filter, orderBy, limit, offset, policy, object]

/-- The word for a parameter, which follows two dashes. -/
def word : Parameter → String
  | filter => "filter"
  | orderBy => "order-by"
  | limit => "limit"
  | offset => "offset"
  | policy => "policy"
  | object => "object"

/-- The parameters by their words. -/
def words : List (String × Parameter) := all.map fun p => (p.word, p)

/-- The parameter that another one cannot be set without: a policy needs an object to
apply to. -/
def needs? : Parameter → Option Parameter
  | policy => some object
  | _ => none

end Parameter

/-- What a command line asks for. -/
structure Arguments where
  query : QueryText
  policy : Option String
  object : Option String
deriving DecidableEq, Repr

/-- How a command line ends that is not carried out: it asks for a text, or it is refused
with a status and a report. -/
inductive Halt where
  | asked (text : String)
  | refused (status : UInt32) (report : String)
deriving DecidableEq, Repr

/-- A library for command lines, given the parameters that there are. -/
class ArgumentReader where
  read : List String → Except Halt (Parameter → Option String)

variable [ArgumentReader]

/-- What a library for command lines does by its documentation. A line that is refused ends
with a status of failure, and no parameter is set without the one that it needs. -/
structure ArgumentReader.Conforms : Prop where
  status_ne_zero : ∀ {line : List String} {status : UInt32} {report : String},
    read line = .error (.refused status report) → status ≠ 0
  needed_set : ∀ {line : List String} {value : Parameter → Option String} {p q : Parameter},
    read line = .ok value → p.needs? = some q → value p ≠ none → value q ≠ none

/-- What a command line asks for. The texts of a query are empty unless they are given. -/
def Arguments.ofLine (line : List String) : Except Halt Arguments := do
  let value ← ArgumentReader.read line
  return {
    query := ⟨(value .filter).getD "", (value .orderBy).getD "", (value .limit).getD "",
      (value .offset).getD ""⟩
    policy := value .policy
    object := value .object }

end RecordQuery
