import RecordQuery.Pattern.Engine
import RecordQuery.Reference.Pattern.Matching
/-!
# An engine of regular expressions

The engine that programs and examples run with. No statement is about it unless it opens
`Reference`.
-/

namespace RecordQuery

namespace Reference

/-- Regular expressions as patterns. -/
scoped instance engine : PatternEngine where
  Expression := Pattern.Expression
  compile pattern :=
    (Pattern.compile? pattern).elim (.error ("not a regular expression: " ++ pattern)) .ok
  isIn := Pattern.Expression.isIn

end Reference

end RecordQuery
