import RecordQuery.Json.Format
import RecordQuery.Reference.Json.Reader
/-!
# A format for JSON

The format that programs and examples run with. It conforms to the grammar, and finds every
floating-point number again in what it writes of it.
-/

namespace RecordQuery

namespace Reference

open Json

/-- Numbers are written with the fewest digits, in place from the fifth
negative power of ten up to the sixteenth power, and always with a point or an
exponent. -/
def numberLayout : Layout := ⟨some (-5, 16), true, true, .toEven⟩

/-- The numeral that a number is written as. -/
def numeral : Number → List Char
  | .integer n _ => (integerText n).toList
  | .float x _ => (numberLayout.text x).toList

/-- The number in a numeral, the nearest one that there is. -/
def number? (cs : List Char) : Option Number := (readNumber cs).bind Prod.fst

/-- The reader and the writer of this module. Arrays and objects may nest 127 deep. -/
scoped instance format : Format where
  number? := number?
  numeral := numeral
  read := outline?
  nesting := 127
  write v := String.ofList (v.compact numeral)
  report
    | .value, _ => "not a value"
    | .policyTable, _ => "not a table of policies"

end Reference

end RecordQuery
