import RecordQuery.Proofs.Filter.Lexing
import RecordQuery.Proofs.Json.Values
import RecordQuery.Proofs.Query.Lines
import RecordQuery.Proofs.Reference.Reading
import RecordQuery.Proofs.Results
import RecordQuery.Proofs.Text.Utf8
/-!
# Records written and read again

Bytes hold records on lines (`RecordsIn`), and the records that are read from them are
the ones that they hold (`recordsOfBytes_eq_ok_iff`). Records that were read are written
on one line each, and read from there as they are (`recordsOfBytes_textOfRecords`):
nothing that a value can hold breaks a line or makes one blank, and what was dropped
between the records, blank lines and the ends of lines, is not written again.
-/

namespace RecordQuery

open Json

/-! ## Lines that are not blank -/

theorem not_all_isBlank_cons {c : Char} {cs : List Char} (hc : isBlank c = false) :
    (c :: cs).all isBlank = false := by
  rw [List.all_cons, hc, Bool.false_and]

/-- A numeral is not blank: it starts with a minus or a digit. -/
theorem Json.IsNumeral.not_all_isBlank {cs : List Char} (h : Json.IsNumeral cs) :
    cs.all isBlank = false := by
  have hdigits {w : List Char} (hw : Leading w) : w.all isBlank = false := by
    cases w with
    | nil => exact absurd rfl hw.ne_nil
    | cons c w =>
      exact not_all_isBlank_cons
        (isBlank_of_continuesName (continuesName_of_isDigit (hw.digits c List.mem_cons_self)))
  have hmantissa {cs w : List Char} {f : Option (List Char)} (hm : Mantissa cs w f) :
      cs.all isBlank = false := by
    cases hm with
    | whole hw => exact hdigits hw
    | pointed hw => rw [List.all_append, hdigits hw, Bool.false_and]
  obtain ⟨negative, hm, -⟩ := h
  cases negative with
  | true => exact not_all_isBlank_cons (by decide)
  | false => rw [signText, if_neg Bool.false_ne_true, List.nil_append, List.all_append,
      hmantissa hm, Bool.false_and]

section

variable [Format]

/-- The text of an outline is not blank. -/
theorem not_all_isBlank_of_writtenAs {o : Outline} {cs : List Char} (h : o.WrittenAs cs) :
    cs.all isBlank = false := by
  match h with
  | .null => rfl
  | .true => rfl
  | .false => rfl
  | .number hnumeral => exact hnumeral.not_all_isBlank
  | .string ⟨inner, htext, _⟩ =>
    rw [htext]
    exact not_all_isBlank_cons (by decide)
  | .emptyArray _ => exact not_all_isBlank_cons (by decide)
  | .array _ => exact not_all_isBlank_cons (by decide)
  | .emptyObject _ => exact not_all_isBlank_cons (by decide)
  | .object _ => exact not_all_isBlank_cons (by decide)
  | .spaced _ h _ =>
    rw [List.all_append, List.all_append, not_all_isBlank_of_writtenAs h, Bool.false_and,
      Bool.and_false]

/-! ## What bytes hold -/

/-- The records that lines hold, one on each line that is not blank. -/
inductive RecordsOnLines : List (List Char) → List Value → Prop
  | nil : RecordsOnLines [] []
  | blank {line : List Char} {rest : List (List Char)} {records : List Value}
      (hblank : line.all isBlank = true) (h : RecordsOnLines rest records) :
      RecordsOnLines (line :: rest) records
  | record {line : List Char} {v : Value} {rest : List (List Char)} {records : List Value}
      (hblank : line.all isBlank = false) (hv : parse? (String.ofList line) = some v)
      (h : RecordsOnLines rest records) : RecordsOnLines (line :: rest) (v :: records)

/-- Whether bytes are a text whose lines hold records. -/
def RecordsIn (bytes : ByteArray) (records : List Value) : Prop :=
  ∃ text : String, bytes = text.toUTF8 ∧ RecordsOnLines (linesOf text.toList) records

/-- The records that lines hold are read from them. -/
theorem valuesOfLines_of_recordsOnLines {lines : List (List Char)} {records : List Value}
    (h : RecordsOnLines lines records) (number : Nat) :
    valuesOfLines true number lines = .ok records := by
  induction h generalizing number with
  | nil => rfl
  | blank hblank _ ih =>
    rw [valuesOfLines, hblank]
    exact ih (number + 1)
  | record hblank hv _ ih =>
    rw [valuesOfLines, hblank, hv, ih (number + 1)]
    rfl

/-- What is read from lines are the records that they hold, and the bytes behind the lines
could be decoded. -/
theorem recordsOnLines_of_valuesOfLines {decoded : Bool} {number : Nat}
    {lines : List (List Char)} {records : List Value}
    (h : valuesOfLines decoded number lines = .ok records) :
    RecordsOnLines lines records ∧ (lines ≠ [] → decoded = true) := by
  induction lines generalizing number records with
  | nil =>
    rw [valuesOfLines] at h
    cases h
    exact ⟨.nil, absurd rfl⟩
  | cons line rest ih =>
    have hdecoded (hlast : ¬(!decoded && rest.isEmpty) = true)
        (hrest : rest ≠ [] → decoded = true) : decoded = true := by
      cases rest with
      | nil => simpa using hlast
      | cons next rest => exact hrest (List.cons_ne_nil next rest)
    rw [valuesOfLines] at h
    split at h
    · cases h
    next hlast =>
    split at h
    · next hblank =>
      obtain ⟨hrest, hmore⟩ := ih h
      exact ⟨.blank hblank hrest, fun _ => hdecoded hlast hmore⟩
    next hblank =>
    split at h
    · cases h
    · next v hv =>
      obtain ⟨others, hothers, h⟩ := bind_eq_ok h
      cases h
      obtain ⟨hrest, hmore⟩ := ih hothers
      exact ⟨.record (Bool.eq_false_of_not_eq_true hblank) hv hrest,
        fun _ => hdecoded hlast hmore⟩

/-- **The records that are read from bytes are the ones that they hold.** -/
theorem recordsOfBytes_eq_ok_iff {bytes : ByteArray} {records : List Value} :
    recordsOfBytes bytes = .ok records ↔ RecordsIn bytes records := by
  constructor
  · intro h
    rw [recordsOfBytes] at h
    cases hbytes : decodeUtf8 bytes with
    | mk cs decoded =>
      rw [hbytes] at h
      obtain ⟨hlines, hdecoded⟩ := recordsOnLines_of_valuesOfLines h
      rw [hdecoded (linesOf_ne_nil cs)] at hbytes
      refine ⟨String.ofList cs, eq_toUTF8_of_decodeUtf8 hbytes, ?_⟩
      rwa [String.toList_ofList]
  · rintro ⟨text, rfl, hlines⟩
    rw [recordsOfBytes, decodeUtf8_toUTF8]
    exact valuesOfLines_of_recordsOnLines hlines 1

/-- Bytes hold one list of records at most. -/
theorem RecordsIn.unique {bytes : ByteArray} {records records' : List Value}
    (h : RecordsIn bytes records) (h' : RecordsIn bytes records') : records = records' :=
  Except.ok.inj ((recordsOfBytes_eq_ok_iff.2 h).symm.trans (recordsOfBytes_eq_ok_iff.2 h'))

/-- What lines hold is read from one of them each. -/
theorem RecordsOnLines.exists_parse? {lines : List (List Char)} {records : List Value}
    (h : RecordsOnLines lines records) : ∀ v ∈ records, ∃ text, parse? text = some v := by
  induction h with
  | nil => exact nofun
  | blank _ _ ih => exact ih
  | record _ hv _ ih => exact List.forall_mem_cons.2 ⟨⟨_, hv⟩, ih⟩

/-! ## What is written -/

/-- The lines of what is written hold the records. -/
theorem recordsOnLines_texts (hformat : Format.Conforms) (hfloats : Format.ReadsFloatsBack)
    {records : List Value} (h : ∀ v ∈ records, parse? v.text = some v) :
    RecordsOnLines (records.map (·.text.toList) ++ [[]]) records := by
  induction records with
  | nil => exact .blank rfl .nil
  | cons v rest ih =>
    obtain ⟨hv, hrest⟩ := List.forall_mem_cons.1 h
    have hwritten := hformat.writtenAs_text (v := v) fun n _ => hformat.readBack hfloats n
    refine .record (not_all_isBlank_of_writtenAs hwritten) ?_ (ih hrest)
    rwa [String.ofList_toList]

/-- What is written holds the records. -/
theorem recordsIn_textOfRecords (hformat : Format.Conforms) (hfloats : Format.ReadsFloatsBack)
    {records : List Value} (h : ∀ v ∈ records, parse? v.text = some v) :
    RecordsIn (textOfRecords records).toUTF8 records := by
  refine ⟨_, rfl, ?_⟩
  rw [linesOf_textOfRecords hformat]
  exact recordsOnLines_texts hformat hfloats h

/-- **Records that were read are read again from what is written.** They are written
on one line each, with nothing behind the last one, and give the same text when
they are written again. -/
theorem recordsOfBytes_textOfRecords (hformat : Format.Conforms)
    (hfloats : Format.ReadsFloatsBack) {input : ByteArray} {records : List Value}
    (h : recordsOfBytes input = .ok records) :
    pieces '\n' (textOfRecords records).toList = records.map (·.text.toList) ++ [[]] ∧
      ∃ again, recordsOfBytes (textOfRecords records).toUTF8 = .ok again ∧ again = records ∧
        (textOfRecords again).toUTF8 = (textOfRecords records).toUTF8 := by
  obtain ⟨text, -, hlines⟩ := recordsOfBytes_eq_ok_iff.1 h
  have hvalues : ∀ v ∈ records, parse? v.text = some v := by
    intro v hv
    obtain ⟨line, hline⟩ := hlines.exists_parse? v hv
    exact hformat.parse?_text (fun n _ => hformat.readBack hfloats n) hline
  refine ⟨pieces_textOfRecords hformat records, records, ?_, rfl, rfl⟩
  exact recordsOfBytes_eq_ok_iff.2 (recordsIn_textOfRecords hformat hfloats hvalues)

end

section

open Reference

theorem fitsWord_greatest : FitsWord 18446744073709551615 := by decide

/-- The greatest integer. -/
def greatest : Number := .integer 18446744073709551615 fitsWord_greatest

/-- The zero that is written with a sign. -/
def negativeZero : Number := .float ⟨true, 0, Nat.zero_lt_succ _⟩ rfl

/-- Two numbers and the end of a line, under keys that are neither in order nor all
different. -/
def unevenRecord : Value :=
  .object [("zero", .number negativeZero), ("max", .null), ("line", .string "\n"),
    ("max", .number greatest)]

/-- The record as it is read. -/
def evenRecord : Value :=
  .object [("line", .string "\n"), ("max", .number greatest), ("zero", .number negativeZero)]

theorem recordsOfBytes_unevenRecord :
    recordsOfBytes ("\r\n" ++ textOfRecords [unevenRecord]).toUTF8 = .ok [evenRecord] := by
  have hparse : parse? unevenRecord.text = some evenRecord :=
    (parse?_text unevenRecord).trans rfl
  have hlines : linesOf ("\r\n" ++ textOfRecords [unevenRecord]).toList =
      [[], unevenRecord.text.toList, []] := by
    rw [linesOf, String.toList_append]
    show linesOfPieces (['\r'] :: pieces '\n' (textOfRecords [unevenRecord]).toList) = _
    rw [pieces_textOfRecords format_conforms, List.map_singleton, List.singleton_append,
      linesOfPieces, linesOfPieces, (format_conforms.noControls_text unevenRecord).withoutReturn_eq]
    rfl
  refine recordsOfBytes_eq_ok_iff.2 ⟨_, rfl, ?_⟩
  rw [hlines]
  refine .blank rfl (.record (not_all_isBlank_of_writtenAs (writtenAs_text _)) ?_ (.blank rfl .nil))
  rwa [String.ofList_toList]

/-- What is written of the record is not what was read, but is read alike. -/
theorem evenRecord_again :
    recordsOfBytes ("\r\n" ++ textOfRecords [unevenRecord]).toUTF8 = .ok [evenRecord] ∧
      recordsOfBytes (textOfRecords [evenRecord]).toUTF8 = .ok [evenRecord] := by
  obtain ⟨-, again, hread, rfl, -⟩ :=
    recordsOfBytes_textOfRecords format_conforms format_readsFloatsBack recordsOfBytes_unevenRecord
  exact ⟨recordsOfBytes_unevenRecord, hread⟩

end

end RecordQuery
