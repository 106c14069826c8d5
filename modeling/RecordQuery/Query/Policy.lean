import RecordQuery.Filter.Tree
import RecordQuery.Query.Sorting
/-!
# Policies — what queries may do with a field

A table has policies for the fields of objects. A policy denies operations,
forbids sorting, or asks for literals of one type. What has no policy is not
restricted. A query is checked condition by condition from left to right, its
filter before its order, and each condition for the operation before the
literal. Negations and connectives play no part.
-/

namespace RecordQuery

open Json

/-- What a condition does with its field. -/
inductive Operation where
  | eq
  | like
  | gt
  | ge
  | lt
  | le
deriving DecidableEq, Repr

namespace Operation

/-- All operations. -/
def all : List Operation := [eq, like, gt, ge, lt, le]

/-- The name of an operation. -/
def name : Operation → String
  | eq => "EQ"
  | like => "MATCH"
  | gt => "GT"
  | ge => "GE"
  | lt => "LT"
  | le => "LE"

/-- The operations by their names. -/
def names : List (String × Operation) := all.map fun o => (o.name, o)

end Operation

/-- The type of a literal. -/
inductive LiteralType where
  | text
  | number
deriving DecidableEq, Repr

namespace LiteralType

/-- The name of a type. -/
def name : LiteralType → String
  | text => "STRING"
  | number => "NUMBER"

/-- The types by their names. -/
def names : List (String × LiteralType) := [text, number].map fun t => (t.name, t)

end LiteralType

/-- The operation of a comparison. -/
def Comparison.operation : Comparison → Operation
  | eq => .eq
  | lt => .lt
  | le => .le
  | gt => .gt
  | ge => .ge

/-- The operation of a test. -/
def Test.operation : Test → Operation
  | equals _ => .eq
  | like _ => .like
  | compares comparison _ => comparison.operation
  | isNull => .eq

/-- The type of a test's literal. Null has none. -/
def Test.literalType? : Test → Option LiteralType
  | equals _ => some .text
  | like _ => some .text
  | compares _ _ => some .number
  | isNull => none

/-! ## Policies and tables -/

/-- What queries may not do with a field. -/
structure FieldPolicy where
  denied : List Operation
  sortingDisabled : Bool
  literalType : Option LiteralType
deriving DecidableEq, Repr

namespace FieldPolicy

/-- No restriction. -/
def unrestricted : FieldPolicy := ⟨[], false, none⟩

/-- Some operations are denied. -/
def deny (operations : List Operation) : FieldPolicy := { unrestricted with denied := operations }

/-- All operations are denied. -/
def denyAll : FieldPolicy := deny Operation.all

/-- Sorting is forbidden, too. -/
def withoutSorting (p : FieldPolicy) : FieldPolicy := { p with sortingDisabled := true }

/-- Literals have to be of a type, too. -/
def withLiteralType (p : FieldPolicy) (t : LiteralType) : FieldPolicy :=
  { p with literalType := some t }

/-- Whether an operation is denied. -/
def denies (p : FieldPolicy) (o : Operation) : Bool := p.denied.contains o

end FieldPolicy

/-- The policies of an object's fields, by their paths. -/
abbrev ObjectPolicy := Members FieldPolicy

/-- The policies of objects, by their names. -/
structure PolicyTable where
  objects : Members ObjectPolicy
deriving DecidableEq, Repr

namespace PolicyTable

/-- No policies. -/
def empty : PolicyTable := ⟨.empty⟩

/-- The policies of an object. -/
def object? (t : PolicyTable) (object : String) : Option ObjectPolicy := t.objects.get? object

/-- The policy of an object's field. -/
def field? (t : PolicyTable) (object field : String) : Option FieldPolicy := do
  (← t.object? object).get? field

/-- The table with the policy of a field. -/
def insert (t : PolicyTable) (object field : String) (p : FieldPolicy) : PolicyTable :=
  ⟨t.objects.insert object (((t.object? object).getD .empty).insert field p)⟩

/-- The number of objects. -/
def size (t : PolicyTable) : Nat := t.objects.size

/-- Whether there are no objects. -/
def isEmpty (t : PolicyTable) : Bool := t.objects.isEmpty

end PolicyTable

/-! ## JSON -/

/-- A policy as JSON. -/
def FieldPolicy.encode (p : FieldPolicy) : Value :=
  .ofMembers <| [("denied", .ofStrings (p.denied.map Operation.name)),
    ("sorting_disabled", .bool p.sortingDisabled)] ++
    match p.literalType with
    | some t => [("value_type", .string t.name)]
    | none => []

/-- The policies of an object as JSON. -/
def encodeObject (o : ObjectPolicy) : Value :=
  .ofMembers (o.list.map fun m => (m.1, m.2.encode))

/-- A table as JSON. -/
def PolicyTable.encode (t : PolicyTable) : Value :=
  .ofMembers (t.objects.list.map fun m => (m.1, encodeObject m.2))

/-- A part of a policy, or what it is when it is missing. -/
def decodePart? {α : Type} (missing : α) (decode? : Outline → Option α) :
    Option Outline → Option α
  | none => some missing
  | some o => decode? o

/-- The policy that an outline stands for. -/
def FieldPolicy.decode? (limit : Nat) (o : Outline) : Option FieldPolicy := do
  let part ← o.fields? limit ["denied", "sorting_disabled", "value_type"]
  let denied ← decodePart? [] (fun o => do
    (← o.items? (limit - 1)).mapM (Outline.choice? (limit - 2) Operation.names)) (part "denied")
  let sortingDisabled ← decodePart? false Outline.bool? (part "sorting_disabled")
  let literalType ← decodePart? none (fun o => match o with
    | .null => some none
    | o => (o.choice? (limit - 1) LiteralType.names).map some) (part "value_type")
  return ⟨denied, sortingDisabled, literalType⟩

/-- The policies of an object that an outline stands for. -/
def decodeObject? (limit : Nat) (o : Outline) : Option ObjectPolicy := do
  let members ← (← o.members? limit).mapM fun m =>
    (FieldPolicy.decode? (limit - 1) m.2).map fun p => (m.1, p)
  return .ofList members

/-- The table that an outline stands for. -/
def PolicyTable.decode? (limit : Nat) (o : Outline) : Option PolicyTable := do
  let members ← (← o.members? limit).mapM fun m =>
    (decodeObject? (limit - 1) m.2).map fun p => (m.1, p)
  return ⟨.ofList members⟩

/-- The table that a JSON text stands for. -/
def PolicyTable.ofJson? [Format] (text : String) : Option PolicyTable := do
  PolicyTable.decode? Format.nesting (← Format.read text)

/-! ## Checking -/

/-- What a query may not do. -/
inductive PolicyError where
  | operationDenied (field : String) (operation : Operation)
  | sortingDisabled (field : String)
  | wrongLiteral (field : String) (expected : LiteralType)
deriving DecidableEq, Repr

/-- The wording of an error. -/
def PolicyError.message : PolicyError → String
  | operationDenied field operation =>
    "operation " ++ operation.name ++ " is not allowed for '" ++ field ++ "'"
  | sortingDisabled field => "sorting is not allowed for '" ++ field ++ "'"
  | wrongLiteral field expected =>
    "field '" ++ field ++ "' only accepts " ++ expected.name ++ " literals"

/-- Checks a condition against the policy of its field. -/
def FieldPolicy.check (p : FieldPolicy) (c : Condition) : Except PolicyError Unit :=
  if p.denies c.test.operation then .error (.operationDenied c.field c.test.operation)
  else match p.literalType, c.test.literalType? with
    | some expected, some actual =>
      if expected = actual then .ok () else .error (.wrongLiteral c.field expected)
    | _, _ => .ok ()

/-- Checks a condition against the policies of an object. -/
def checkCondition (o : ObjectPolicy) (c : Condition) : Except PolicyError Unit :=
  match o.get? c.field with
  | some p => p.check c
  | none => .ok ()

/-- Checks a filter against the policies of an object. -/
def checkFilter (o : ObjectPolicy) : Filter → Except PolicyError Unit
  | .condition c => checkCondition o c
  | .junction _ l r _ => do
    checkFilter o l
    checkFilter o r

/-- Checks criteria against the policies of an object. -/
def checkCriteria (o : ObjectPolicy) : List Criterion → Except PolicyError Unit
  | [] => .ok ()
  | c :: rest =>
    match o.get? c.tag with
    | some p => if p.sortingDisabled then .error (.sortingDisabled c.tag) else checkCriteria o rest
    | none => checkCriteria o rest

namespace PolicyTable

/-- Checks a filter for an object. -/
def validateFilter (t : PolicyTable) (object : String) (f : Filter) : Except PolicyError Unit :=
  match t.object? object with
  | some o => checkFilter o f
  | none => .ok ()

/-- Checks an order for an object. -/
def validateSorting (t : PolicyTable) (object : String) (s : Sorting) :
    Except PolicyError Unit :=
  match t.object? object with
  | some o => checkCriteria o s.criteria
  | none => .ok ()

/-- Checks a filter and an order for an object, as far as they are given. -/
def validate (t : PolicyTable) (object : String) (filter : Option Filter)
    (sorting : Option Sorting) : Except PolicyError Unit := do
  if let some f := filter then t.validateFilter object f
  if let some s := sorting then t.validateSorting object s

end PolicyTable

end RecordQuery
