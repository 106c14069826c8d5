import RecordQuery.Filter.Evaluation
/-!
# The registry — field sets built once for each type

A type's field set is built when it is first needed and kept from then on,
whatever the type declares later. Registering a type also refuses repeated
tags, but the set stays. Evaluating a filter needs the sets of exactly the
entities whose fields it looks up, up to the condition at which it fails.
-/

namespace RecordQuery

/-- A tag that a type has declared again, and the name of the type. -/
structure DuplicateField where
  typeName : String
  field : String
deriving DecidableEq, Repr

/-- The wording of the error. -/
def DuplicateField.message (e : DuplicateField) : String :=
  "duplicate field '" ++ e.field ++ "' declared by " ++ e.typeName

/-- The field sets built so far, one for each type. -/
structure Registry where
  sets : List FieldSet
deriving Repr

namespace Registry

/-- No set has been built. -/
def empty : Registry := ⟨[]⟩

/-- The set of a type that has been built. -/
def find? (r : Registry) (type : RecordType) : Option FieldSet :=
  r.sets.find? fun s => s.type == type

/-- Whether the set of a type has been built. -/
def contains (r : Registry) (type : RecordType) : Bool := (r.find? type).isSome

/-- The number of sets. -/
def size (r : Registry) : Nat := r.sets.length

/-- Whether no set has been built. -/
def isEmpty (r : Registry) : Bool := r.sets.isEmpty

/-- The set of a type, given the one that its declarations build now. -/
def current (r : Registry) (built : FieldSet) : FieldSet :=
  (r.find? built.type).getD built

/-- The registry after a set has been needed. -/
def keep (r : Registry) (built : FieldSet) : Registry :=
  if r.contains built.type then r else ⟨r.sets ++ [built]⟩

/-- The set of a type and the registry that keeps it. -/
def fields (r : Registry) (built : FieldSet) : FieldSet × Registry :=
  (r.current built, r.keep built)

/-- The set of a type, unless a tag of it is declared twice, and the registry
that keeps it in any case. -/
def register (r : Registry) (built : FieldSet) :
    Except DuplicateField FieldSet × Registry :=
  let (s, r) := r.fields built
  match s.duplicates with
  | [] => (.ok s, r)
  | field :: _ => (.error ⟨s.type.name, field⟩, r)

end Registry

/-! ## The sets that an evaluation needs -/

/-- The set of an entity's type. -/
def Record.declared : Record → List FieldSet
  | entity fields _ => [fields]
  | document _ => []

/-- The sets that are needed to walk along a path. -/
def Record.needed (r : Record) : List String → List FieldSet
  | [] => []
  | segment :: rest =>
    r.declared ++
      match r.field? segment with
      | some v =>
        match v.enter segment with
        | .ok inner => inner.needed rest
        | .error _ => []
      | none => []

variable [PatternEngine]

/-- The sets that are needed to evaluate some conditions, up to the first one
that fails. -/
def neededBy (patterns : Patterns) (r : Record) : List Condition → List FieldSet
  | [] => []
  | c :: rest =>
    r.needed c.path ++
      match c.verdict patterns r with
      | .ok _ => neededBy patterns r rest
      | .error _ => []

/-- The sets that are needed to evaluate a filter. -/
def Filter.needed (f : Filter) (r : Record) : List FieldSet :=
  match f.patterns with
  | .ok patterns => neededBy patterns r f.conditions
  | .error _ => []

/-- The verdict on a record, and the registry that keeps what was needed. -/
def Registry.evaluate (g : Registry) (filter : Option Filter) (r : Record) :
    Except EvalError Bool × Registry :=
  let needed := match filter with
    | some f => f.needed r
    | none => []
  (RecordQuery.evaluate filter r, needed.foldl Registry.keep g)

end RecordQuery
