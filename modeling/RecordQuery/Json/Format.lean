import RecordQuery.Json.Outline
/-!
# JSON formats

What is taken from a library for JSON: how a text is read as an outline, how deep
arrays and objects may nest in what is read, and how a value is written. Numerals are
left to the library as well, both the number that is found in one and the one that a
number is written as. What a library does by its documentation is stated apart, as
`Format.Conforms`.
-/

namespace RecordQuery

namespace Json

/-- What a text is read for. -/
inductive Wanted where
  | value
  | policyTable
deriving DecidableEq, Repr

/-- A library for JSON. Where a text is not what is wanted of it, the library has a
report of why. -/
class Format where
  number? : List Char → Option Number
  numeral : Number → List Char
  read : String → Option Outline
  nesting : Nat
  write : Value → String
  report : Wanted → String → String

variable [Format]

/-- The text of a value. -/
def Value.text (v : Value) : String := Format.write v

/-- The value that a text stands for. -/
def parse? (text : String) : Option Value := do
  Value.ofOutline? Format.nesting (← Format.read text)

end Json

end RecordQuery
