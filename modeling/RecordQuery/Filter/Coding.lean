import RecordQuery.Json.Decoding
import RecordQuery.Json.Format
import RecordQuery.Filter.Tree
/-!
# Filters as JSON

A filter is an object with one member: the key names the kind of node, and the
value is a record of its parts, which are written in a fixed order and read in
any. So a filter of depth `d` nests `2 * d` objects, and its paths one array
more.
-/

namespace RecordQuery

open Json

/-! ## Names -/

namespace Connective

/-- The name of a connective. -/
def name : Connective → String
  | and => "AND"
  | or => "OR"

/-- The connectives by their names. -/
def names : List (String × Connective) := [and, or].map fun c => (c.name, c)

end Connective

namespace Comparison

/-- The name of a comparison. -/
def name : Comparison → String
  | eq => "EQ"
  | lt => "LT"
  | le => "LE"
  | gt => "GT"
  | ge => "GE"

/-- All comparisons. -/
def all : List Comparison := [eq, lt, le, gt, ge]

/-- The comparisons by their names. -/
def names : List (String × Comparison) := all.map fun c => (c.name, c)

end Comparison

/-- The two tests that texts are put to. -/
inductive TextTest where
  | equals
  | like
deriving DecidableEq, Repr

namespace TextTest

/-- The name of a test of texts. -/
def name : TextTest → String
  | equals => "EQ"
  | like => "MATCH"

/-- The tests of texts by their names. -/
def names : List (String × TextTest) := [equals, like].map fun t => (t.name, t)

/-- The test with its text. -/
def test : TextTest → String → Test
  | equals => .equals
  | like => .like

end TextTest

/-! ## Encoding -/

/-- A record of a kind, as the one member of an object. -/
def encodeKind (kind : String) (parts : List (String × Value)) : Value :=
  .object [(kind, .object parts)]

/-- A condition on texts. -/
def encodeTextTest (c : Condition) (t : TextTest) (value : String) : Value :=
  encodeKind "StringCondition" [
    ("field_path", .ofStrings c.path), ("value", .string value),
    ("condition_type", .string t.name), ("is_negative", .bool c.negated)]

/-- A condition as JSON. -/
def Condition.encode (c : Condition) : Value :=
  match c.test with
  | .equals value => encodeTextTest c .equals value
  | .like pattern => encodeTextTest c .like pattern
  | .compares comparison number =>
    encodeKind "NumberCondition" [
      ("field_path", .ofStrings c.path), ("value", .ofBinary64 number),
      ("condition_type", .string comparison.name), ("is_negative", .bool c.negated)]
  | .isNull =>
    encodeKind "NullCondition" [
      ("field_path", .ofStrings c.path), ("is_negative", .bool c.negated)]

/-- A filter as JSON. -/
def Filter.encode : Filter → Value
  | condition c => c.encode
  | junction connective l r negated =>
    encodeKind "Operator" [
      ("left", l.encode), ("right", r.encode),
      ("op_type", .string connective.name), ("is_negative", .bool negated)]

/-! ## Decoding -/

/-- A condition on texts. -/
def Condition.decodeText? (limit : Nat) (o : Outline) : Option Condition := do
  let part ← o.fields? limit ["field_path", "value", "condition_type", "is_negative"]
  let path ← (← part "field_path").strings? (limit - 1)
  let value ← (← part "value").string?
  let test ← (← part "condition_type").choice? (limit - 1) TextTest.names
  let negated ← (← part "is_negative").bool?
  return ⟨path, test.test value, negated⟩

/-- A condition on numbers. -/
def Condition.decodeNumber? (limit : Nat) (o : Outline) : Option Condition := do
  let part ← o.fields? limit ["field_path", "value", "condition_type", "is_negative"]
  let path ← (← part "field_path").strings? (limit - 1)
  let value ← (← part "value").number?
  let comparison ← (← part "condition_type").choice? (limit - 1) Comparison.names
  let negated ← (← part "is_negative").bool?
  return ⟨path, .compares comparison value.toBinary64, negated⟩

/-- A condition that asks for null. -/
def Condition.decodeNull? (limit : Nat) (o : Outline) : Option Condition := do
  let part ← o.fields? limit ["field_path", "is_negative"]
  let path ← (← part "field_path").strings? (limit - 1)
  let negated ← (← part "is_negative").bool?
  return ⟨path, .isNull, negated⟩

/-- Two filters under a connective, given how filters are decoded one level
further in. -/
def Filter.decodeJunction? (limit : Nat) (decode? : Outline → Option Filter) (o : Outline) :
    Option Filter := do
  let part ← o.fields? limit ["left", "right", "op_type", "is_negative"]
  let left ← decode? (← part "left")
  let right ← decode? (← part "right")
  let connective ← (← part "op_type").choice? (limit - 1) Connective.names
  let negated ← (← part "is_negative").bool?
  return .junction connective left right negated

/-- The filter that an outline stands for, within a limit on its nesting. -/
def Filter.decode? : (limit : Nat) → Outline → Option Filter
  | limit + 2, .object [(some kind, o)] =>
    if kind = "Operator" then decodeJunction? (limit + 1) (decode? limit) o
    else if kind = "StringCondition" then
      (Condition.decodeText? (limit + 1) o).map .condition
    else if kind = "NumberCondition" then
      (Condition.decodeNumber? (limit + 1) o).map .condition
    else if kind = "NullCondition" then
      (Condition.decodeNull? (limit + 1) o).map .condition
    else none
  | _, _ => none

/-- The filter that a JSON text stands for. -/
def Filter.ofJson? [Format] (text : String) : Option Filter := do
  Filter.decode? Format.nesting (← Format.read text)

end RecordQuery
