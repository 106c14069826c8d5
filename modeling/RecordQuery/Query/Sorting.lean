import RecordQuery.Json.Decoding
import RecordQuery.Json.Format
import RecordQuery.Record.FieldValue
import RecordQuery.Text.Blank
/-!
# Sorting — orders of records by their fields

An order is a list of criteria, each a tag and a direction, and later criteria
decide where the earlier ones tie. The tag is the path of a field. Values of
different kinds are ordered by kind: missing values first, then truth values,
numbers, texts, and everything else, which ties.
-/

namespace RecordQuery

open Json

/-- The direction of a criterion. -/
inductive SortOrder where
  | ascending
  | descending
deriving DecidableEq, Repr, Inhabited

/-- What records are sorted by. -/
structure Criterion where
  tag : String
  order : SortOrder
deriving DecidableEq, Repr

/-- Criteria in the order of their weight. -/
structure Sorting where
  criteria : List Criterion
deriving DecidableEq, Repr

/-! ## Text -/

/-- The keyword of a direction. -/
def SortOrder.keyword : SortOrder → String
  | ascending => "asc"
  | descending => "desc"

/-- The text of a criterion. -/
def Criterion.text (c : Criterion) : String := c.tag ++ " " ++ c.order.keyword

/-- The text of an order. -/
def Sorting.text (s : Sorting) : String := joined ", " (s.criteria.map Criterion.text)

/-- The tags of the criteria. -/
def Sorting.tags (s : Sorting) : List String := s.criteria.map Criterion.tag

/-- Why a text is not an order. -/
inductive SortingError where
  | emptyClause
  | unknownOrder (word tag : String)
  | extraWord (word : String) (before : Criterion)
deriving DecidableEq, Repr

/-- The wording of an error. -/
def SortingError.message (e : SortingError) : String :=
  "invalid sorting: " ++ match e with
    | emptyClause => "empty sort clause"
    | unknownOrder word tag =>
      "invalid sort order '" ++ word ++ "' for '" ++ tag ++ "', expected 'asc' or 'desc'"
    | extraWord word before => "unexpected '" ++ word ++ "' after '" ++ before.text ++ "'"

/-- The direction that a keyword stands for, in any letter case. -/
def SortOrder.ofKeyword? (word : String) : Option SortOrder :=
  if sameUpToCase word "asc" then some .ascending
  else if sameUpToCase word "desc" then some .descending
  else none

/-- The criterion of a clause: a tag and at most a direction. -/
def Criterion.ofWords : List String → Except SortingError Criterion
  | [] => .error .emptyClause
  | [tag] => .ok ⟨tag, .ascending⟩
  | tag :: word :: rest =>
    match SortOrder.ofKeyword? word, rest with
    | none, _ => .error (.unknownOrder word tag)
    | some order, [] => .ok ⟨tag, order⟩
    | some order, extra :: _ => .error (.extraWord extra ⟨tag, order⟩)

/-- The order that a text stands for: clauses between commas, or nothing. -/
def parseSorting (text : String) : Except SortingError Sorting :=
  if allBlank text then .ok ⟨[]⟩
  else do
    let criteria ← (pieces ',' text.toList).mapM fun clause =>
      Criterion.ofWords ((words clause).map String.ofList)
    return ⟨criteria⟩

/-! ## JSON -/

/-- The name of a direction. -/
def SortOrder.name : SortOrder → String
  | ascending => "ASC"
  | descending => "DESC"

/-- The directions by their names. -/
def SortOrder.names : List (String × SortOrder) :=
  [ascending, descending].map fun o => (o.name, o)

/-- A criterion as JSON. -/
def Criterion.encode (c : Criterion) : Value :=
  .ofMembers [("tag", .string c.tag), ("order", .string c.order.name)]

/-- An order as JSON. -/
def Sorting.encode (s : Sorting) : Value :=
  .ofMembers [("criteria", .array (s.criteria.map Criterion.encode))]

/-- The criterion that an outline stands for. -/
def Criterion.decode? (limit : Nat) (o : Outline) : Option Criterion := do
  let part ← o.fields? limit ["tag", "order"]
  let tag ← (← part "tag").string?
  let order ← (← part "order").choice? (limit - 1) SortOrder.names
  return ⟨tag, order⟩

/-- The order that a JSON text stands for. -/
def Sorting.ofJson? [Format] (text : String) : Option Sorting := do
  let part ← (← Format.read text).fields? Format.nesting ["criteria"]
  let items ← (← part "criteria").items? (Format.nesting - 1)
  return ⟨← items.mapM (Criterion.decode? (Format.nesting - 2))⟩

/-! ## Comparing records -/

/-- What a record is sorted by under one criterion. -/
inductive SortKey where
  | null
  | bool (b : Bool)
  | number (x : Binary64)
  | text (s : String)
  | other
deriving DecidableEq, Repr

namespace SortKey

/-- The place of a kind of value among the others. -/
def rank : SortKey → Nat
  | null => 0
  | bool _ => 1
  | number _ => 2
  | text _ => 3
  | other => 4

/-- The order of keys. -/
def compare : SortKey → SortKey → Ordering
  | bool a, bool b => Ord.compare a.toNat b.toNat
  | number x, number y => x.totalCompare y
  | text s, text t => compareOfLessAndEq s t
  | a, b => Ord.compare a.rank b.rank

/-- The key of a field's value. -/
def ofField (v : FieldValue) : SortKey :=
  match v.dereference with
  | .null => null
  | .flag b => bool b
  | .text s => text s
  | v =>
    match v.number? with
    | some x => number x
    | none => other

end SortKey

/-- The key of a record at a path. A field that is missing or cannot be
reached counts as a missing value. -/
def Record.keyAt (r : Record) : List String → SortKey
  | [] => .null
  | [segment] =>
    match r.field? segment with
    | some v => .ofField v
    | none => .null
  | segment :: rest =>
    match (r.field? segment).map FieldValue.dereference with
    | some (.record inner) => inner.keyAt rest
    | _ => .null

/-- The key of a record under a tag. -/
def Record.sortKey (r : Record) (tag : String) : SortKey := r.keyAt (piecesOf '.' tag)

/-- The order of two records under one criterion. -/
def Criterion.compare (c : Criterion) (a b : Record) : Ordering :=
  let ordering := (a.sortKey c.tag).compare (b.sortKey c.tag)
  match c.order with
  | .ascending => ordering
  | .descending => ordering.swap

/-- The order of two records: the first criterion that tells them apart
decides. -/
def compareBy (a b : Record) : List Criterion → Ordering
  | [] => .eq
  | c :: rest => (c.compare a b).then (compareBy a b rest)

/-- The order of two records. -/
def Sorting.compare (s : Sorting) (a b : Record) : Ordering := compareBy a b s.criteria

/-- Whether one record may stand before another. -/
def Sorting.le (s : Sorting) (a b : Record) : Bool := s.compare a b != .gt

end RecordQuery
