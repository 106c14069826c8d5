import RecordQuery.Filter.Tree
import RecordQuery.Pattern.Engine
import RecordQuery.Record.FieldValue
/-!
# Evaluation — what a filter says about a record

The patterns of a filter are compiled first, from left to right, and then every
condition is evaluated, from left to right as well, whether or not the
conditions before it have settled the answer. So an invalid pattern is
reported for every record, and a condition that does not fit a record is
reported wherever it stands.

A prepared filter keeps its patterns, each text once, for many records.
-/

namespace RecordQuery

/-! ## Errors -/

/-- What a condition expects of the value at its path. -/
inductive Expected where
  | text
  | number
  | nullable
deriving DecidableEq, Repr

/-- The wording of an expectation. -/
def Expected.describe : Expected → String
  | text => "a string"
  | number => "a number"
  | nullable => "a nullable value"

/-- Why a condition does not fit a record. -/
inductive Mismatch where
  | emptyPath
  | unknownField (segment : String)
  | nullSegment (segment : String)
  | noFields (segment kind : String)
  | wrongKind (expected : Expected) (found : String)
deriving DecidableEq, Repr

/-- The wording of a mismatch. -/
def Mismatch.describe : Mismatch → String
  | emptyPath => "empty field path"
  | unknownField segment => "unknown field '" ++ segment ++ "'"
  | nullSegment segment => "'" ++ segment ++ "' is null"
  | noFields segment kind => "'" ++ segment ++ "' is " ++ kind ++ " and has no fields"
  | wrongKind expected found => "expected " ++ expected.describe ++ ", found " ++ found

/-- Why a filter cannot be evaluated. Of a pattern that is not valid there is the report of
the engine. -/
inductive EvalError where
  | invalidPattern (report : String)
  | mismatch (path : List String) (cause : Mismatch)
deriving DecidableEq, Repr

/-- The wording of an error, which is the engine's own for a pattern. -/
def EvalError.message : EvalError → String
  | invalidPattern report => report
  | mismatch path cause =>
    "type mismatch for '" ++ pathText path ++ "': " ++ cause.describe

/-! ## Paths -/

/-- The field of a record, which must be there. -/
def Record.segment (r : Record) (name : String) : Except Mismatch FieldValue :=
  match r.field? name with
  | some v => .ok v
  | none => .error (.unknownField name)

/-- The record that a field holds, given what its name is. -/
def FieldValue.enter (segment : String) (v : FieldValue) : Except Mismatch Record :=
  match v.dereference with
  | .record r => .ok r
  | .null => .error (.nullSegment segment)
  | other => .error (.noFields segment other.kind)

/-- The value at a path of which the first segment is given, walking into a
record at every other. -/
def Record.resolveFrom (r : Record) (first : String) : List String → Except Mismatch FieldValue
  | [] => r.segment first
  | next :: rest => do
    let inner ← (← r.segment first).enter first
    inner.resolveFrom next rest

/-- The value at a path. -/
def Record.resolve (r : Record) : List String → Except Mismatch FieldValue
  | [] => .error .emptyPath
  | first :: rest => r.resolveFrom first rest

/-! ## Patterns -/

variable [PatternEngine]

/-- Compiled patterns by their texts. -/
abbrev Patterns := List (String × PatternEngine.Expression)

/-- A compiled pattern. -/
def compilePattern (pattern : String) : Except EvalError PatternEngine.Expression :=
  match PatternEngine.compile pattern with
  | .ok e => .ok e
  | .error report => .error (.invalidPattern report)

/-- The patterns with the one of a condition, unless it is there already. -/
def Patterns.add (patterns : Patterns) (c : Condition) : Except EvalError Patterns :=
  match c.test with
  | .like pattern =>
    if (patterns.lookup pattern).isSome then .ok patterns
    else do return patterns ++ [(pattern, ← compilePattern pattern)]
  | _ => .ok patterns

/-- The patterns of a filter. -/
def Filter.patterns (f : Filter) : Except EvalError Patterns :=
  f.conditions.foldlM Patterns.add []

/-! ## Verdicts -/

/-- The comparison of two numbers. -/
def Comparison.holds : Comparison → Binary64 → Binary64 → Bool
  | eq, x, y => x.eq y
  | lt, x, y => x.lt y
  | le, x, y => x.le y
  | gt, x, y => y.lt x
  | ge, x, y => y.le x

/-- What a connective makes of two verdicts. -/
def Connective.apply : Connective → Bool → Bool → Bool
  | and, a, b => a && b
  | or, a, b => a || b

/-- What a test says about a value, before any negation. A missing text or
number satisfies no comparison. A pattern that is not at hand is compiled. -/
def Test.holds (patterns : Patterns) (t : Test) (v : FieldValue) :
    Except EvalError (Except Mismatch Bool) :=
  match t with
  | .equals value =>
    match v.dereference with
    | .text s => .ok (.ok (s == value))
    | .null => .ok (.ok false)
    | other => .ok (.error (.wrongKind .text other.kind))
  | .like pattern =>
    match v.dereference with
    | .text s =>
      match patterns.lookup pattern with
      | some e => .ok (.ok (PatternEngine.isIn e s))
      | none => do return .ok (PatternEngine.isIn (← compilePattern pattern) s)
    | .null => .ok (.ok false)
    | other => .ok (.error (.wrongKind .text other.kind))
  | .compares comparison number =>
    match v.dereference.number? with
    | some x => .ok (.ok (comparison.holds x number))
    | none =>
      if v.dereference.isNull then .ok (.ok false)
      else .ok (.error (.wrongKind .number v.dereference.kind))
  | .isNull =>
    if v.isOptional then .ok (.ok v.isNull)
    else .ok (.error (.wrongKind .nullable v.kind))

/-- The verdict of a condition on a record. -/
def Condition.verdict (patterns : Patterns) (r : Record) (c : Condition) :
    Except EvalError Bool :=
  match r.resolve c.path with
  | .error cause => .error (.mismatch c.path cause)
  | .ok v => do
    match ← c.test.holds patterns v with
    | .error cause => .error (.mismatch c.path cause)
    | .ok b => return b != c.negated

/-- The verdict of a filter on a record. Both sides of a connective are always
evaluated. -/
def Filter.verdict (patterns : Patterns) (r : Record) : Filter → Except EvalError Bool
  | condition c => c.verdict patterns r
  | junction connective left right negated => do
    let a ← left.verdict patterns r
    let b ← right.verdict patterns r
    return connective.apply a b != negated

/-- The verdict on a record. Without a filter every record passes. -/
def evaluate (filter : Option Filter) (r : Record) : Except EvalError Bool :=
  match filter with
  | none => .ok true
  | some f => do f.verdict (← f.patterns) r

/-! ## Prepared filters -/

/-- The patterns of a filter, if there is one. -/
def patternsOf (filter : Option Filter) : Except EvalError Patterns :=
  match filter with
  | none => .ok []
  | some f => f.patterns

/-- A filter with its compiled patterns. -/
structure PreparedFilter where
  filter : Option Filter
  patterns : Patterns
  compiled : patternsOf filter = .ok patterns

namespace PreparedFilter

/-- The filter that every record passes. -/
def none : PreparedFilter := ⟨.none, [], rfl⟩

/-- A filter with its patterns compiled. -/
def prepare (filter : Option Filter) : Except EvalError PreparedFilter :=
  match h : patternsOf filter with
  | .error e => .error e
  | .ok patterns => .ok ⟨filter, patterns, h⟩

/-- The number of different patterns. -/
def patternCount (p : PreparedFilter) : Nat := p.patterns.length

/-- The verdict on a record. -/
def verdict (p : PreparedFilter) (r : Record) : Except EvalError Bool :=
  match p.filter with
  | .none => .ok true
  | some f => f.verdict p.patterns r

end PreparedFilter

end RecordQuery
