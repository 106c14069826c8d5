import RecordQuery.Json.Members
import RecordQuery.Number.Binary64
/-!
# JSON values

Numbers are integers where they fit into 64 bits, with or without a sign, and
finite floating-point numbers otherwise. The members of an object that is read,
or built by `ofMembers`, stand in the order of their keys.
-/

namespace RecordQuery

namespace Json

/-! ## Numbers -/

/-- Whether an integer fits into 64 bits, with a sign or without. -/
def FitsWord (n : Int) : Prop := -0x8000000000000000 ≤ n ∧ n < 0x10000000000000000

instance (n : Int) : Decidable (FitsWord n) := inferInstanceAs (Decidable (_ ∧ _))

/-- A number. -/
inductive Number where
  | integer (n : Int) (fits : FitsWord n)
  | float (x : Binary64) (finite : x.isFinite = true)
deriving DecidableEq, Repr

namespace Number

/-- A finite floating-point number. -/
def ofBinary64? (x : Binary64) : Option Number :=
  if h : x.isFinite = true then some (.float x h) else none

/-- An integer, exactly if it fits and as the nearest floating-point number
otherwise, as far as that is finite. -/
def ofInt? (n : Int) : Option Number :=
  if h : FitsWord n then some (.integer n h) else ofBinary64? (.ofInt n)

/-- The nearest floating-point number. -/
def toBinary64 : Number → Binary64
  | integer n _ => .ofInt n
  | float x _ => x

end Number

/-! ## Values -/

/-- A value. -/
inductive Value where
  | null
  | bool (b : Bool)
  | number (n : Number)
  | string (s : String)
  | array (items : List Value)
  | object (members : List (String × Value))

instance : Inhabited Value := ⟨.null⟩

namespace Value

/-- The object with these members. -/
def ofMembers (members : List (String × Value)) : Value := .object (sortMembers members)

/-- A list of strings. -/
def ofStrings (ss : List String) : Value := .array (ss.map .string)

/-- A floating-point number, or null if it is not finite. -/
def ofBinary64 (x : Binary64) : Value :=
  match Number.ofBinary64? x with
  | some n => .number n
  | none => .null

/-- An integer. -/
def ofInt (n : Int) : Value :=
  match Number.ofInt? n with
  | some n => .number n
  | none => .null

end Value

end Json

end RecordQuery
