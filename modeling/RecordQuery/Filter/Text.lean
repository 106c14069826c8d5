import RecordQuery.Filter.Tree
import RecordQuery.Number.Decimal
/-!
# The text of a filter

Filters are written in the language they are read in. Every connective gets
its brackets, and a negation is written into the operator where the language
has one for it, in front otherwise. Text values stand between quotes that do
not occur in them, as far as there are any: the language has no escapes.
-/

namespace RecordQuery

/-- Numbers in filters are written out in place, without an exponent or a
needless point. -/
def literalLayout : Layout := ⟨none, false, false, .up⟩

namespace Connective

/-- The keyword. -/
def keyword : Connective → String
  | and => "and"
  | or => "or"

end Connective

namespace Comparison

/-- The operator. -/
def operator : Comparison → String
  | eq => "=="
  | lt => "<"
  | le => "<="
  | gt => ">"
  | ge => ">="

end Comparison

/-- A text between double quotes if it has a single one in it, and between
single quotes otherwise. -/
def quoted (s : String) : String :=
  let quote := if s.toList.contains '\'' then "\"" else "'"
  quote ++ s ++ quote

namespace Condition

/-- The text of a condition. -/
def text (c : Condition) : String :=
  match c.test with
  | .equals value => c.field ++ (if c.negated then " != " else " == ") ++ quoted value
  | .like pattern => c.field ++ (if c.negated then " !~ " else " ~ ") ++ quoted pattern
  | .compares .eq x =>
    c.field ++ (if c.negated then " != " else " == ") ++ literalLayout.text x
  | .compares comparison x =>
    (if c.negated then "not " else "") ++ c.field ++ " " ++ comparison.operator ++ " " ++
      literalLayout.text x
  | .isNull => c.field ++ (if c.negated then " != " else " == ") ++ "null"

end Condition

/-- The text of a filter. -/
def Filter.text : Filter → String
  | condition c => c.text
  | junction connective l r negated =>
    (if negated then "not " else "") ++ "(" ++ l.text ++ " " ++ connective.keyword ++ " " ++
      r.text ++ ")"

end RecordQuery
