import RecordQuery.Text.LetterCase
import RecordQuery.Text.Pieces
import RecordQuery.Text.Quoted
/-!
# Field sets — the declared fields of a record type

A type declares fields one after the other, each with the tag it is queried by
and the name of the member that holds it. The first declaration of a tag
counts, and later ones are kept apart as duplicates. Fields are found by tag,
or else by member name, where letter case is ignored and the earliest field
wins. Two indices lead from tags and from member names in lower case to the
place of a field in the set.
-/

namespace RecordQuery

/-- A declared field: its tag, the member that holds it, and the number of its
declaration, by which its value is found in a record. -/
structure Field where
  name : String
  member : String
  number : Nat
deriving DecidableEq, Repr

/-- A record type: which one it is, and the name that it goes by. Different types may go by
one name. -/
structure RecordType where
  id : Nat
  name : String
deriving DecidableEq, Repr

/-- The declared fields of a type, with the indices by tag and by member, and
the tags that were declared again. -/
structure FieldSet where
  type : RecordType
  fields : List Field
  byName : List (String × Nat)
  byMember : List (String × Nat)
  duplicates : List String
deriving DecidableEq, Repr

namespace FieldSet

/-- The set of a type that has declared nothing. -/
def empty (type : RecordType) : FieldSet := ⟨type, [], [], [], []⟩

/-- The set with one declaration more. -/
def declare (s : FieldSet) (name member : String) (number : Nat) : FieldSet :=
  if (s.byName.lookup name).isSome then { s with duplicates := s.duplicates ++ [name] }
  else
    { s with
      fields := s.fields ++ [⟨name, member, number⟩]
      byName := s.byName ++ [(name, s.fields.length)]
      byMember :=
        if (s.byMember.lookup (lowered member)).isSome then s.byMember
        else s.byMember ++ [(lowered member, s.fields.length)] }

/-- The set with several declarations more, numbered from some number on. -/
def declareAll (s : FieldSet) (number : Nat) : List (String × String) → FieldSet
  | [] => s
  | (name, member) :: rest => (s.declare name member number).declareAll (number + 1) rest

/-- The set of a type's declarations, each a tag and a member. -/
def build (type : RecordType) (declarations : List (String × String)) : FieldSet :=
  (empty type).declareAll 0 declarations

/-- The field that a name stands for. -/
def lookup (s : FieldSet) (name : String) : Option Field := do
  let place ← s.byName.lookup name <|> s.byMember.lookup (lowered name)
  s.fields[place]?

/-- The tags of the fields, in the order of their declaration. -/
def names (s : FieldSet) : List String := s.fields.map Field.name

/-- The number of fields. -/
def size (s : FieldSet) : Nat := s.fields.length

/-- Whether there are no fields. -/
def isEmpty (s : FieldSet) : Bool := s.fields.isEmpty

end FieldSet

/-- A field as it is shown. -/
def Field.inspect (f : Field) : String :=
  "FieldAccessor \x7b name: " ++ quotedText f.name ++ ", member: " ++ quotedText f.member ++
    ", .. \x7d"

/-- A set as it is shown, with its fields. -/
def FieldSet.inspect (s : FieldSet) : String :=
  "FieldSet \x7b type_name: " ++ quotedText s.type.name ++ ", accessors: [" ++
    joined ", " (s.fields.map Field.inspect) ++ "], .. \x7d"

end RecordQuery
