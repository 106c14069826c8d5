import RecordQuery.Json.Outline
import RecordQuery.Number.Count
/-!
# Decoding JSON

The parts that decoders are built from. A limit bounds the nesting that is
left, and every array or object uses up one level of it. A record with named
fields is an object, in which no field occurs twice and others are ignored, or
an array of the fields' values in their order, which may end early where the
decoder has a default.
-/

namespace RecordQuery

namespace Json

namespace Outline

/-- A truth value. -/
def bool? : Outline → Option Bool
  | .bool b => some b
  | _ => none

/-- A string. -/
def string? : Outline → Option String
  | .string s => s
  | _ => none

/-- A number. -/
def number? : Outline → Option Number
  | .number n => n
  | _ => none

/-- A natural number below a bound. -/
def below? (bound : Nat) (o : Outline) : Option { n : Nat // n < bound } :=
  match o.number? with
  | some (.integer n _) =>
    if h : 0 ≤ n ∧ n.toNat < bound then some ⟨n.toNat, h.2⟩ else none
  | _ => none

/-- A word of 32 bits. -/
def word32? (o : Outline) : Option UInt32 := (o.below? UInt32.size).map word32

/-- A word of 64 bits. -/
def word64? (o : Outline) : Option UInt64 := (o.below? UInt64.size).map word64

/-- The items of an array. -/
def items? (limit : Nat) : Outline → Option (List Outline)
  | .array items => if limit = 0 then none else some items
  | _ => none

/-- A list of strings. -/
def strings? (limit : Nat) (o : Outline) : Option (List String) := do
  (← o.items? limit).mapM string?

/-- One of several names, written as a string or as the key of a null. -/
def choice? {α : Type} (limit : Nat) (names : List (String × α)) : Outline → Option α
  | .string (some s) => names.lookup s
  | .object [(some s, .null)] => if limit = 0 then none else names.lookup s
  | _ => none

/-- The members of an object with their keys. -/
def members? (limit : Nat) : Outline → Option (List (String × Outline))
  | .object members =>
    if limit = 0 then none
    else members.mapM fun m => m.1.map fun key => (key, m.2)
  | _ => none

/-- The fields of a record, each by its name as far as it is there. -/
def fields? (limit : Nat) (names : List String) (o : Outline) :
    Option (String → Option Outline) :=
  match o with
  | .array items =>
    if limit = 0 ∨ names.length < items.length then none
    else some fun name => (names.zip items).lookup name
  | _ => do
    let members ← o.members? limit
    if names.all fun name => (members.filter fun m => m.1 == name).length ≤ 1 then
      return fun name => members.lookup name
    else none

end Outline

end Json

end RecordQuery
