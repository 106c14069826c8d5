/-!
# Tokens — the words of the filter language

A token has a kind, the text it was written as, and the byte offset it was
written at. Kinds and tokens have names for error messages.
-/

namespace RecordQuery

/-- The kinds of token. -/
inductive TokenKind where
  | field
  | string
  | number
  | null
  | and
  | or
  | not
  | eq
  | ne
  | like
  | unlike
  | lt
  | le
  | gt
  | ge
  | leftParen
  | rightParen
  | finish
deriving DecidableEq, Repr

namespace TokenKind

/-- All kinds. -/
def all : List TokenKind :=
  [field, string, number, null, and, or, not, eq, ne, like, unlike, lt, le, gt, ge,
    leftParen, rightParen, finish]

/-- The kinds that compare a field with a literal. -/
def comparisons : List TokenKind := [eq, ne, like, unlike, lt, le, gt, ge]

/-- Whether a kind compares a field with a literal. -/
def isComparison (k : TokenKind) : Bool := comparisons.contains k

/-- The name of a kind in messages. -/
def describe : TokenKind → String
  | field => "field"
  | string => "string"
  | number => "number"
  | null => "'null'"
  | and => "'and'"
  | or => "'or'"
  | not => "'not'"
  | eq => "'=='"
  | ne => "'!='"
  | like => "'~'"
  | unlike => "'!~'"
  | lt => "'<'"
  | le => "'<='"
  | gt => "'>'"
  | ge => "'>='"
  | leftParen => "'('"
  | rightParen => "')'"
  | finish => "end of input"

/-- Kinds listed for a message, the last one after an "or". -/
def describeAll : List TokenKind → String
  | [] => "nothing"
  | [k] => k.describe
  | k :: rest =>
    let rec tail : TokenKind → List TokenKind → String
      | l, [] => " or " ++ l.describe
      | l, m :: more => ", " ++ l.describe ++ tail m more
    match rest with
    | [] => k.describe
    | l :: more => k.describe ++ tail l more

end TokenKind

/-- A token. The text of a string is what stands between its quotes. -/
structure Token where
  kind : TokenKind
  text : String
  position : Nat
deriving DecidableEq, Repr

/-- A token as messages show it: fields, strings and numbers with their text,
all others by their kind. -/
def Token.describe (t : Token) : String :=
  match t.kind with
  | .field => "field '" ++ t.text ++ "'"
  | .string => "string '" ++ t.text ++ "'"
  | .number => "number " ++ t.text
  | k => k.describe

end RecordQuery
