import RecordQuery.Json.Value
import RecordQuery.Number.Decimal
import RecordQuery.Record.FieldSet
/-!
# Records and the values of their fields

A record is a JSON document or an entity, whose type has declared its fields.
Looking up a field by its name gives a value. A value may be wrapped as
optional, any number of times, and `dereference` strips the wrappers. The
members of a document are always optional.
-/

namespace RecordQuery

mutual

/-- A record: a document, or an entity with its declared fields and the values
in the order of the declarations. -/
inductive Record where
  | document (value : Json.Value)
  | entity (fields : FieldSet) (values : List FieldValue)

/-- The value of a field. -/
inductive FieldValue where
  | text (s : String)
  | integer (n : Int)
  | natural (n : Nat)
  | float (x : Binary64)
  | flag (b : Bool)
  | record (r : Record)
  | null
  | optional (v : FieldValue)
  | unsupported (kind : String)

end

instance : Inhabited FieldValue := ⟨.null⟩

instance : Inhabited Record := ⟨.document .null⟩

namespace FieldValue

/-- Whether the value is missing. -/
def isNull : FieldValue → Bool
  | null => true
  | _ => false

/-- Whether the value might have been missing. -/
def isOptional : FieldValue → Bool
  | null => true
  | optional _ => true
  | _ => false

/-- The value without the wrappers of a value that is there. -/
def dereference : FieldValue → FieldValue
  | optional v => v.dereference
  | v => v

/-- The text of a value that is a text. -/
def text? : FieldValue → Option String
  | text s => some s
  | _ => none

/-- The number of a value that is a number, as a floating-point number. -/
def number? : FieldValue → Option Binary64
  | integer n => some (.ofInt n)
  | natural n => some (.ofInt n)
  | float x => some x
  | _ => none

/-- The kind of a value, for messages. -/
def kind : FieldValue → String
  | text _ => "string"
  | integer _ => "integer"
  | natural _ => "integer"
  | float _ => "float"
  | flag _ => "bool"
  | record _ => "record"
  | null => "null"
  | optional v => v.kind
  | unsupported k => k

/-- Numbers are shown with a point or an exponent, in place from the fourth
negative power of ten up to the sixteenth power. -/
def inspectLayout : Layout := ⟨some (-4, 16), true, false, .up⟩

/-- A value as it is shown, with its wrappers. -/
def inspect : FieldValue → String
  | text s => "Str(" ++ quotedText s ++ ")"
  | integer n => "Int(" ++ integerText n ++ ")"
  | natural n => "UInt(" ++ integerText n ++ ")"
  | float x => "Float(" ++ inspectLayout.text x ++ ")"
  | flag b => "Bool(" ++ (if b then "true" else "false") ++ ")"
  | record _ => "Record(..)"
  | null => "Optional(None)"
  | optional v => "Optional(Some(" ++ v.inspect ++ "))"
  | unsupported k => "Unsupported(" ++ quotedText k ++ ")"

@[simp] theorem dereference_optional (v : FieldValue) :
    (optional v).dereference = v.dereference := rfl

/-- **Dereferencing strips every wrapper**, so doing it again changes nothing. -/
@[simp] theorem dereference_dereference : (v : FieldValue) →
    v.dereference.dereference = v.dereference
  | optional v => dereference_dereference v
  | text _ | integer _ | natural _ | float _ | flag _ | record _ | null | unsupported _ => rfl

end FieldValue

/-! ## Fields of documents -/

namespace Json

/-- A member of a document as a field's value. -/
def Value.toField (v : Value) : FieldValue :=
  match v with
  | .null => .null
  | .bool b => .optional (.flag b)
  | .number (.integer n _) =>
    if n < 0x8000000000000000 then .optional (.integer n) else .optional (.natural n.toNat)
  | .number (.float x _) => .optional (.float x)
  | .string s => .optional (.text s)
  | .array _ => .optional (.unsupported "array")
  | .object _ => .optional (.record (.document v))

/-- The member that a name stands for: the one with this very key, or else the
first one whose key differs from it only in letter case. -/
def findMember? (name : String) (members : List (String × Value)) : Option Value :=
  member? name members <|> (members.find? fun m => sameUpToCase m.1 name).map (·.2)

/-- The field of a document. Only objects have fields. -/
def Value.field? (v : Value) (name : String) : Option FieldValue :=
  match v with
  | .object members => (findMember? name members).map Value.toField
  | _ => none

end Json

/-- The field of a record. -/
def Record.field? : Record → String → Option FieldValue
  | document v, name => v.field? name
  | entity fields values, name =>
    (fields.lookup name).map fun f => values.getD f.number .null

/-- An optional record as a field's value. -/
def FieldValue.ofRecord? : Option Record → FieldValue
  | some r => .optional (.record r)
  | none => .null

end RecordQuery
