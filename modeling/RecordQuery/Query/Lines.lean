import RecordQuery.Json.Format
import RecordQuery.Text.Blank
import RecordQuery.Text.Pieces
import RecordQuery.Text.Utf8
/-!
# Lines of records

Records are JSON values, one on each line. Blank lines are skipped, but they
count for the numbers of the lines. Bytes are read line by line, so a line that
is no record is reported before a later one that is no text.
-/

namespace RecordQuery

open Json

/-- Why bytes are not lines of records. Of a line that is no record there is the report
of the format. -/
inductive LineError where
  | notText
  | notJson (line : Nat) (report : String)
deriving DecidableEq, Repr

/-- A line without the carriage return that it may end in. -/
def withoutReturn (line : List Char) : List Char :=
  if line.getLast? = some '\r' then line.dropLast else line

/-- Pieces between newlines as lines. In front of a newline a carriage return belongs to
the end of the line, but there is no newline behind the last piece. -/
def linesOfPieces : List (List Char) → List (List Char)
  | [] => []
  | [last] => [last]
  | line :: next :: rest => withoutReturn line :: linesOfPieces (next :: rest)

/-- The lines of a text. -/
def linesOf (cs : List Char) : List (List Char) := linesOfPieces (pieces '\n' cs)

variable [Format]

/-- The values of lines, the first of which has a number. The last line is no
text if the bytes behind the lines could not be decoded. -/
def valuesOfLines (decoded : Bool) (number : Nat) : List (List Char) →
    Except LineError (List Value)
  | [] => .ok []
  | line :: rest =>
    if !decoded && rest.isEmpty then .error .notText
    else if line.all isBlank then valuesOfLines decoded (number + 1) rest
    else match Json.parse? (String.ofList line) with
      | none => .error (.notJson number (Format.report .value (String.ofList line)))
      | some v => do return v :: (← valuesOfLines decoded (number + 1) rest)

/-- The records of a sequence of bytes. -/
def recordsOfBytes (bytes : ByteArray) : Except LineError (List Value) :=
  let (cs, decoded) := decodeUtf8 bytes
  valuesOfLines decoded 1 (linesOf cs)

/-- Records on lines of their own. -/
def textOfRecords (records : List Value) : String :=
  String.ofList (records.flatMap fun v => v.text.toList ++ ['\n'])

end RecordQuery
