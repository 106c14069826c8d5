import RecordQuery.Text.Printable
import RecordQuery.Text.Hexadecimal
/-!
# Quoted text

A text between double quotes in which everything is visible: quotes,
backslashes and the usual control characters are escaped by a letter, and other
characters without a glyph by their code point.
-/

namespace RecordQuery

/-- The hexadecimal digits of a natural number. -/
def hexDigits (n : Nat) : List Char := Nat.toDigits 16 n

/-- A character inside a quoted text. -/
def visible (c : Char) : List Char :=
  if c = '\x00' then ['\\', '0']
  else if c = '\t' then ['\\', 't']
  else if c = '\n' then ['\\', 'n']
  else if c = '\r' then ['\\', 'r']
  else if c = '"' then ['\\', '"']
  else if c = '\\' then ['\\', '\\']
  else if isPrintable c then [c]
  else ['\\', 'u', '\x7b'] ++ hexDigits c.toNat ++ ['\x7d']

/-- A text between double quotes. -/
def quotedText (s : String) : String :=
  "\"" ++ String.ofList (s.toList.flatMap visible) ++ "\""

end RecordQuery
