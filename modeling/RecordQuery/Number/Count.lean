import RecordQuery.Number.Decimal
/-!
# Counts — natural numbers as users write them

A count is a run of digits with an optional plus before it. It must lie below
a bound.
-/

namespace RecordQuery

/-- The digits of a count behind its sign. -/
def countDigits (cs : List Char) : List Char :=
  match cs with
  | '+' :: rest => rest
  | _ => cs

/-- The count that a text stands for, if it lies below a bound. -/
def readCount (bound : Nat) (cs : List Char) : Option { n : Nat // n < bound } :=
  let digits := countDigits cs
  if digits ≠ [] ∧ digits.all Char.isDigit then
    if h : ofDigits digits < bound then some ⟨ofDigits digits, h⟩ else none
  else none

/-- A natural number that fits into 32 bits, as a word. -/
def word32 (n : { n : Nat // n < UInt32.size }) : UInt32 := .ofNatLT n.1 n.2

/-- A natural number that fits into 64 bits, as a word. -/
def word64 (n : { n : Nat // n < UInt64.size }) : UInt64 := .ofNatLT n.1 n.2

/-- The word of 32 bits that a text stands for. -/
def readWord32 (cs : List Char) : Option UInt32 := (readCount UInt32.size cs).map word32

/-- The word of 64 bits that a text stands for. -/
def readWord64 (cs : List Char) : Option UInt64 := (readCount UInt64.size cs).map word64

/-- A word of 32 bits in base ten. -/
def wordText (n : UInt32) : String := integerText n.toNat

end RecordQuery
