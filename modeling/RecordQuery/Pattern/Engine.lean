/-!
# Pattern engines

What is taken from a library of patterns: how a pattern is compiled, and whether a
compiled pattern matches somewhere in a text. Which patterns are valid, and what they
match, is up to the engine.
-/

namespace RecordQuery

/-- An engine for patterns. Compiling a pattern gives an expression, or a report of why
the pattern is not valid. -/
class PatternEngine where
  Expression : Type
  compile : String → Except String Expression
  isIn : Expression → String → Bool

/-- Whether some pattern is valid and matches in one text but not in another one. -/
def PatternEngine.TellsTextsApart [PatternEngine] : Prop :=
  ∃ pattern e, compile pattern = .ok e ∧ ∃ s s', isIn e s ≠ isIn e s'

end RecordQuery
