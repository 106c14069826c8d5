import RecordQuery.CommandLine.LogFilter
import RecordQuery.Text.Alphabetic
import RecordQuery.Text.LetterCase
import RecordQuery.Text.Pieces
/-!
# A reader of log filters

A log filter is a list of directives between commas. A directive names a
target, a span in square brackets, or both, and may end in an equals sign and a
level. The name of a level is a directive of its own, as targets are written
with the same letters.
-/

namespace RecordQuery

namespace Reference

/-- The levels, by name or by number. -/
def logLevels : List String :=
  ["trace", "debug", "info", "warn", "error", "off", "0", "1", "2", "3", "4", "5"]

/-- Whether a text is a level, in any letter case. -/
def isLogLevel (cs : List Char) : Bool :=
  logLevels.any fun level => sameUpToCase (String.ofList cs) level

/-- The characters of a target. -/
def isTargetCharacter (c : Char) : Bool := isWordCharacter c || c == ':' || c == '-'

/-- What is left of a directive behind a target or a span, if it starts with
one. -/
def afterSubject : List Char → Option (List Char)
  | '[' :: rest =>
    match rest.dropWhile (· != ']') with
    | _ :: more => some more
    | [] => none
  | c :: rest => if isTargetCharacter c then some (rest.dropWhile isTargetCharacter) else none
  | [] => none

/-- Whether a directive may end like this behind its subjects. -/
def endsDirective : List Char → Bool
  | [] => true
  | '=' :: level => level.isEmpty || isLogLevel level
  | _ => false

/-- Whether a text is a directive. -/
def isDirective (cs : List Char) : Bool :=
  match afterSubject cs with
  | none => false
  | some rest => endsDirective rest || (afterSubject rest).any endsDirective

/-- Whether a text is a log filter. Nothing between two commas means
nothing. -/
def isLogFilter (text : String) : Bool :=
  (pieces ',' text.toList).all fun cs => cs.isEmpty || isDirective cs

/-- Directives between commas. -/
scoped instance logFilterReader : LogFilterReader where
  check text := if isLogFilter text then .ok () else .error ["not a list of directives"]

end Reference

end RecordQuery
