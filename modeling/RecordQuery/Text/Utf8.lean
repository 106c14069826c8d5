/-!
# UTF-8 — the longest valid beginning of a byte sequence

Bytes are decoded up to the first one that cannot stand there. What follows
is left out, and the result says whether everything was decoded.
-/

namespace RecordQuery

/-- The characters decoded from an offset on, after those read before, and
whether the end was reached. -/
def decodeUtf8From (bytes : ByteArray) (i : Nat) (read : List Char) : List Char × Bool :=
  if i < bytes.size then
    match bytes.utf8DecodeChar? i with
    | some c => decodeUtf8From bytes (i + c.utf8Size) (c :: read)
    | none => (read.reverse, false)
  else (read.reverse, true)
termination_by bytes.size - i
decreasing_by
  have := c.utf8Size_pos
  omega

/-- The longest valid beginning of a byte sequence, and whether it is the
whole of it. -/
def decodeUtf8 (bytes : ByteArray) : List Char × Bool := decodeUtf8From bytes 0 []

/-- The number of bytes that characters take. -/
def utf8Length : List Char → Nat
  | [] => 0
  | c :: cs => c.utf8Size + utf8Length cs

end RecordQuery
