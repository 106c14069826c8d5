import RecordQuery.Json.Value
/-!
# Outlines

What a JSON text says, with the members of objects as they are written. A scalar of
an outline may have no value, like a number that is too large or a string with half
a surrogate pair. That matters only where the scalar is used, so `Value.ofOutline?`
and the decoders of the other modules decide it. They also bound the nesting of
arrays and objects.
-/

namespace RecordQuery

namespace Json

/-- What a text says. -/
inductive Outline where
  | null
  | bool (b : Bool)
  | number (n : Option Number)
  | string (s : Option String)
  | array (items : List Outline)
  | object (members : List (Option String × Outline))

instance : Inhabited Outline := ⟨.null⟩

mutual

/-- The value of an outline, within a limit on its nesting. -/
def Value.ofOutline? (limit : Nat) : Outline → Option Value
  | .null => some .null
  | .bool b => some (.bool b)
  | .number n => n.map .number
  | .string s => s.map .string
  | .array items =>
    if limit = 0 then none else (valuesOfOutlines? (limit - 1) items).map .array
  | .object members =>
    if limit = 0 then none else (membersOfOutlines? (limit - 1) members).map Value.ofMembers

/-- The values of outlines. -/
def valuesOfOutlines? (limit : Nat) : List Outline → Option (List Value)
  | [] => some []
  | o :: rest => do
    return (← Value.ofOutline? limit o) :: (← valuesOfOutlines? limit rest)

/-- The members that outlines stand for. -/
def membersOfOutlines? (limit : Nat) :
    List (Option String × Outline) → Option (List (String × Value))
  | [] => some []
  | (key, o) :: rest => do
    return ((← key), (← Value.ofOutline? limit o)) :: (← membersOfOutlines? limit rest)

end

end Json

end RecordQuery
