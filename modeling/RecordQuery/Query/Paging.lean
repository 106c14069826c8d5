import RecordQuery.Query.Config
/-!
# Paging — windows of a result and what comes after them

A client asks for a number of records from an offset on, and gets with its page
the offset of the next one. The last page has an offset of its own that marks
it, `lastOffset`, or a token that does, `lastToken`.
-/

namespace RecordQuery

open Json

/-- What a client asks for. -/
structure Pagination where
  limit : UInt32
  offset : UInt32
  pageToken : String
deriving DecidableEq, Repr

/-- What a client gets with its page: where the next one starts, and how many
records this one holds. -/
structure PageInfo where
  pageToken : String
  offset : UInt32
  size : UInt32
deriving DecidableEq, Repr

/-- The offset behind the last page. -/
def lastOffset : UInt32 := 1073741824

/-- The token of the last page. -/
def lastToken : String := "null"

/-! ## Requests -/

/-- Why texts do not say which page is asked for. -/
inductive PagingError where
  | notACount (name text : String)
deriving DecidableEq, Repr

/-- The wording of an error. -/
def PagingError.message : PagingError → String
  | notACount name text =>
    "invalid pagination: " ++ name ++ " must be a non-negative integer, got '" ++ text ++ "'"

/-- The count that a text stands for, where nothing means none. -/
def parseCount (name text : String) : Except PagingError UInt32 :=
  let cs := trim text.toList
  if cs = [] then .ok 0
  else match readWord32 cs with
    | some n => .ok n
    | none => .error (.notACount name (String.ofList cs))

/-- The page that texts ask for. The token of the last page counts as none. -/
def parsePagination (limit offset pageToken : String) : Except PagingError Pagination := do
  let limit ← parseCount "limit" limit
  let offset ← parseCount "offset" offset
  let token := trimmed pageToken
  return ⟨limit, offset, if token = lastToken then "" else token⟩

namespace Pagination

/-- Whether the first page is asked for. -/
def isFirstPage (p : Pagination) : Bool := p.offset == 0 && p.pageToken == ""

/-- The number of records asked for, or another one if there is none. -/
def limitOr (p : Pagination) (n : UInt32) : UInt32 := if p.limit = 0 then n else p.limit

/-- The text of a request. -/
def text (p : Pagination) : String :=
  "limit=" ++ wordText p.limit ++ " offset=" ++ wordText p.offset ++
    (if p.pageToken = "" then "" else " page_token=" ++ p.pageToken)

/-- A request as JSON. -/
def encode (p : Pagination) : Value :=
  .ofMembers [("limit", .ofInt p.limit.toNat), ("offset", .ofInt p.offset.toNat),
    ("page_token", .string p.pageToken)]

/-- The request that a JSON text stands for. -/
def ofJson? [Format] (text : String) : Option Pagination := do
  let part ← (← Format.read text).fields? Format.nesting ["limit", "offset", "page_token"]
  return ⟨← (← part "limit").word32?, ← (← part "offset").word32?, ← (← part "page_token").string?⟩

end Pagination

/-! ## Pages -/

namespace PageInfo

/-- Nothing has been returned. -/
def none : PageInfo := ⟨"", 0, 0⟩

/-- Marks the last page by its token. -/
def withLastToken (i : PageInfo) : PageInfo := { i with pageToken := lastToken }

/-- Marks the last page by its offset. -/
def withLastOffset (i : PageInfo) : PageInfo := { i with offset := lastOffset }

/-- Whether the page is the last one. -/
def isLastPage (i : PageInfo) : Bool := i.pageToken == lastToken || i.offset == lastOffset

/-- The text of a page's information. -/
def text (i : PageInfo) : String :=
  "size=" ++ wordText i.size ++ " offset=" ++
    (if i.offset = lastOffset then "last" else wordText i.offset) ++
    (if i.pageToken = "" then "" else " page_token=" ++ i.pageToken)

/-- A page's information as JSON. -/
def encode (i : PageInfo) : Value :=
  .ofMembers [("page_token", .string i.pageToken), ("offset", .ofInt i.offset.toNat),
    ("size", .ofInt i.size.toNat)]

/-- The information that a JSON text stands for. -/
def ofJson? [Format] (text : String) : Option PageInfo := do
  let part ← (← Format.read text).fields? Format.nesting ["page_token", "offset", "size"]
  return ⟨← (← part "page_token").string?, ← (← part "offset").word32?, ← (← part "size").word32?⟩

end PageInfo

/-- A natural number as a word, the greatest one if it is too large. -/
def clampedWord (n : Nat) : UInt32 := .ofNat (min n (UInt32.size - 1))

/-- The number of records on the page that is asked for. -/
def Pagination.effectiveLimit (p : Pagination) (c : Config) : UInt32 := c.effectiveLimit p.limit

/-- What comes with a page of so many records. A page that is not full is the
last one. -/
def Pagination.next (p : Pagination) (c : Config) (returned : Nat) : PageInfo :=
  let size := clampedWord returned
  let info : PageInfo := ⟨"", clampedWord (p.offset.toNat + size.toNat), size⟩
  if size < p.effectiveLimit c then info.withLastOffset else info

end RecordQuery
