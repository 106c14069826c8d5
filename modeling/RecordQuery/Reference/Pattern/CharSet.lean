import RecordQuery.Reference.Pattern.Tree
import RecordQuery.Text.Alphabetic
import RecordQuery.Text.Blank
import RecordQuery.Text.CaseFolding
/-!
# Sets of characters

The sets that a pattern matches single characters with, built from ranges and
shorthands. Outside of the Unicode mode a shorthand means its characters below
the code point 128, and letters vary in case only there.
-/

namespace RecordQuery

namespace Reference

namespace Pattern

/-- A set of characters. -/
inductive CharSet where
  | none
  | range (first last : Nat)
  | shorthand (kind : Shorthand)
  | complement (s : CharSet)
  | union (s t : CharSet)
  | inter (s t : CharSet)
  | anyCase (s : CharSet)
  | anyAsciiCase (s : CharSet)

namespace CharSet

/-- The set of one character. -/
def single (c : Char) : CharSet := .range c.toNat c.toNat

/-- The characters in one set and not in the other. -/
def diff (s t : CharSet) : CharSet := .inter s (.complement t)

/-- The characters of several ranges. -/
def ranges : List (Nat × Nat) → CharSet
  | [] => .none
  | [(a, b)] => .range a b
  | (a, b) :: rest => .union (.range a b) (ranges rest)

/-- Whether a character is in a set. -/
def contains : CharSet → Char → Bool
  | none, _ => false
  | range a b, c => a ≤ c.toNat && c.toNat ≤ b
  | shorthand .digit, c => isDecimalDigit c
  | shorthand .space, c => isBlank c
  | shorthand .word, c => isWordCharacter c
  | complement s, c => !s.contains c
  | union s t, c => s.contains c || t.contains c
  | inter s t, c => s.contains c && t.contains c
  | anyCase s, c => (caseVariants c).any s.contains
  | anyAsciiCase s, c => s.contains c || s.contains c.toLower || s.contains c.toUpper

/-- The lines of a text are parted by line feeds, and by carriage returns if
the flag asks for it. -/
def lineEnds (carriageReturn : Bool) : CharSet :=
  if carriageReturn then .union (.single '\n') (.single '\r') else .single '\n'

/-- The characters below the code point 128 that a shorthand means. -/
def ofAsciiShorthand : Shorthand → CharSet
  | .digit => ranges [(0x30, 0x39)]
  | .space => ranges [(0x09, 0x0D), (0x20, 0x20)]
  | .word => ranges [(0x30, 0x39), (0x41, 0x5A), (0x5F, 0x5F), (0x61, 0x7A)]

/-- The characters of a named set. -/
def ofAsciiClass : AsciiClass → CharSet
  | .alnum => ranges [(0x30, 0x39), (0x41, 0x5A), (0x61, 0x7A)]
  | .alpha => ranges [(0x41, 0x5A), (0x61, 0x7A)]
  | .ascii => ranges [(0x00, 0x7F)]
  | .blank => ranges [(0x09, 0x09), (0x20, 0x20)]
  | .cntrl => ranges [(0x00, 0x1F), (0x7F, 0x7F)]
  | .digit => ranges [(0x30, 0x39)]
  | .graph => ranges [(0x21, 0x7E)]
  | .lower => ranges [(0x61, 0x7A)]
  | .print => ranges [(0x20, 0x7E)]
  | .punct => ranges [(0x21, 0x2F), (0x3A, 0x40), (0x5B, 0x60), (0x7B, 0x7E)]
  | .space => ranges [(0x09, 0x0D), (0x20, 0x20)]
  | .upper => ranges [(0x41, 0x5A)]
  | .word => ranges [(0x30, 0x39), (0x41, 0x5A), (0x5F, 0x5F), (0x61, 0x7A)]
  | .xdigit => ranges [(0x30, 0x39), (0x41, 0x46), (0x61, 0x66)]

end CharSet

end Pattern

end Reference

end RecordQuery
