import RecordQuery.Proofs.Json.Rearranging
import RecordQuery.Proofs.Query.Records
import RecordQuery.Query.Run
import RecordQuery.Reference.Engine
/-!
# Records with their members in another order

A line may be written anew with the members of its objects in another order, at any
depth (`RearrangedLine`). No query can tell, not even one that asks for a name which
several keys differ from in letter case alone (`Query.run_rearranged`): the order of
members is gone once a line has been read, and it is written in the order of keys.
-/

namespace RecordQuery

open Json

section

variable [Format]

/-! ## Lines -/

/-- A line, and the same line or a text of the same outline with the members of
objects in another order. -/
inductive RearrangedLine : List Char → List Char → Prop
  | refl (line : List Char) : RearrangedLine line line
  | written {o o' : Outline} {line line' : List Char} (h : o.WrittenAs line)
      (hr : o.Rearranged o') (h' : o'.WrittenAs line') : RearrangedLine line line'

namespace RearrangedLine

variable {line line' : List Char}

theorem all_isBlank_eq (h : RearrangedLine line line') : line'.all isBlank = line.all isBlank := by
  cases h with
  | refl => rfl
  | written h _ h' => rw [not_all_isBlank_of_writtenAs h, not_all_isBlank_of_writtenAs h']

/-- A line is read as the same record, or neither line is read. -/
theorem parse?_eq (hformat : Format.Conforms) (h : RearrangedLine line line') :
    parse? (String.ofList line') = parse? (String.ofList line) := by
  cases h with
  | refl => rfl
  | written h hr h' =>
    rw [← String.toList_ofList (l := line)] at h
    rw [← String.toList_ofList (l := line')] at h'
    rw [parse?, parse?, hformat.read_of_writtenAs h, hformat.read_of_writtenAs h']
    exact hr.ofOutline?_eq Format.nesting

end RearrangedLine

/-- **Rearranged lines hold the same records.** -/
theorem RecordsOnLines.rearranged (hformat : Format.Conforms) {lines lines' : List (List Char)}
    (h : List.Forall₂ RearrangedLine lines lines') {records : List Value} :
    RecordsOnLines lines' records ↔ RecordsOnLines lines records := by
  induction h generalizing records with
  | nil => rfl
  | cons hline _ ih =>
    constructor
    · intro h
      cases h with
      | blank hblank h => exact .blank (hline.all_isBlank_eq ▸ hblank) (ih.1 h)
      | record hblank hv h =>
        exact .record (hline.all_isBlank_eq ▸ hblank) (hline.parse?_eq hformat ▸ hv) (ih.1 h)
    · intro h
      cases h with
      | blank hblank h => exact .blank (hline.all_isBlank_eq.symm ▸ hblank) (ih.2 h)
      | record hblank hv h =>
        exact .record (hline.all_isBlank_eq.symm ▸ hblank) ((hline.parse?_eq hformat).symm ▸ hv)
          (ih.2 h)

/-! ## Inputs -/

/-- Texts of which each line of the one is that of the other with the members of
objects in another order. -/
def RearrangedInput (input input' : ByteArray) : Prop :=
  ∃ text text' : String, input = text.toUTF8 ∧ input' = text'.toUTF8 ∧
    List.Forall₂ RearrangedLine (linesOf text.toList) (linesOf text'.toList)

/-- Rearranged inputs are read as the same records. -/
theorem RearrangedInput.recordsOfBytes_eq_ok_iff (hformat : Format.Conforms)
    {input input' : ByteArray} (h : RearrangedInput input input') {records : List Value} :
    recordsOfBytes input' = .ok records ↔ recordsOfBytes input = .ok records := by
  obtain ⟨text, text', rfl, rfl, hlines⟩ := h
  have hread (text : String) : recordsOfBytes text.toUTF8 = .ok records ↔
      RecordsOnLines (linesOf text.toList) records := by
    rw [recordsOfBytes, decodeUtf8_toUTF8]
    exact ⟨fun h => (recordsOnLines_of_valuesOfLines h).1,
      fun h => valuesOfLines_of_recordsOnLines h 1⟩
  rw [hread, hread]
  exact RecordsOnLines.rearranged hformat hlines

/-- **No query depends on the order of members.** Both inputs are read as the same
records, or neither is read. What is read of them has the same verdicts, the same page in
the same order or the same error, and the same text is written. -/
theorem Query.run_rearranged [PatternEngine] (hformat : Format.Conforms)
    {input input' : ByteArray} (h : RearrangedInput input input') :
    (∀ records, recordsOfBytes input' = .ok records ↔ recordsOfBytes input = .ok records) ∧
      ∀ records records', recordsOfBytes input = .ok records →
        recordsOfBytes input' = .ok records' → ∀ (q : Query) (config : Config),
          (records'.map fun v => q.filter.verdict (.document v)) =
              records.map (fun v => q.filter.verdict (.document v)) ∧
            q.run config records' = q.run config records ∧
            (q.run config records').map (fun found => textOfRecords found.1) =
              (q.run config records).map fun found => textOfRecords found.1 := by
  refine ⟨fun records => h.recordsOfBytes_eq_ok_iff hformat, ?_⟩
  intro records records' hr hr' q config
  have hsame := (h.recordsOfBytes_eq_ok_iff hformat).1 hr'
  obtain rfl : records = records' := Except.ok.inj (hr.symm.trans hsame)
  exact ⟨rfl, rfl, rfl⟩

end

section

open Reference

/-- A record with two members whose keys are the same name but for letter case. -/
def namesakes : Value :=
  .object [("Name", .string "Ann"),
    ("NAME", .object [("last", .string "Bo"), ("first", .string "Al")])]

/-- The record with its members in another order. -/
def namesakesRearranged : Value :=
  .object [("NAME", .object [("first", .string "Al"), ("last", .string "Bo")]),
    ("Name", .string "Ann")]

theorem rearranged_namesakes : namesakes.outline.Rearranged namesakesRearranged.outline := by
  have hname : (Outline.object [(some "last", .string (some "Bo")),
      (some "first", .string (some "Al"))]).Rearranged
        (.object [(some "first", .string (some "Al")), (some "last", .string (some "Bo"))]) :=
    .object (by decide) rfl (fun i _ _ => .refl _) (.swap _ _ [])
  refine @Outline.Rearranged.object _ [(some "Name", .string (some "Ann")),
    (some "NAME", .object [(some "first", .string (some "Al")),
      (some "last", .string (some "Bo"))])] _ (by decide) rfl (fun i hi hi' => ?_) (.swap _ _ [])
  match i with
  | 0 => exact .refl _
  | 1 => exact hname

/-- The lines of a record are a text of it and an empty one. -/
theorem linesOf_textOfRecords_singleton (v : Value) :
    linesOf (textOfRecords [v]).toList = [v.text.toList, []] :=
  linesOf_textOfRecords format_conforms [v]

theorem rearrangedInput_namesakes :
    RearrangedInput (textOfRecords [namesakes]).toUTF8
      (textOfRecords [namesakesRearranged]).toUTF8 := by
  refine ⟨_, _, rfl, rfl, ?_⟩
  rw [linesOf_textOfRecords_singleton, linesOf_textOfRecords_singleton]
  exact .cons (.written (writtenAs_text namesakes) rearranged_namesakes
    (writtenAs_text namesakesRearranged)) (.cons (.refl []) .nil)

/-- A query for the records whose `name` has the first name Al. -/
def firstNameQuery : Query :=
  ⟨⟨some (.condition ⟨["name", "first"], .equals "Al", false⟩), [], rfl⟩, ⟨[]⟩, ⟨0, 0, ""⟩⟩

/-- Of the namesakes, `name` stands for the one whose key comes first, wherever it is
written. -/
theorem namesakes_alike :
    RearrangedInput (textOfRecords [namesakes]).toUTF8
        (textOfRecords [namesakesRearranged]).toUTF8 ∧
      recordsOfBytes (textOfRecords [namesakes]).toUTF8 = .ok [namesakesRearranged] ∧
      recordsOfBytes (textOfRecords [namesakesRearranged]).toUTF8 = .ok [namesakesRearranged] ∧
      (firstNameQuery.run .standard [namesakesRearranged]).map (fun found =>
          textOfRecords found.1) =
        .ok "\x7b\"NAME\":\x7b\"first\":\"Al\",\"last\":\"Bo\"\x7d,\"Name\":\"Ann\"\x7d\n" := by
  have hparse : parse? namesakesRearranged.text = some namesakesRearranged :=
    (parse?_text namesakesRearranged).trans rfl
  have hrecords : recordsOfBytes (textOfRecords [namesakesRearranged]).toUTF8 =
      .ok [namesakesRearranged] :=
    recordsOfBytes_eq_ok_iff.2 (recordsIn_textOfRecords format_conforms format_readsFloatsBack
      (List.forall_mem_singleton.2 hparse))
  have hread := (Query.run_rearranged format_conforms rearrangedInput_namesakes).1
  exact ⟨rearrangedInput_namesakes, (hread _).1 hrecords, hrecords, rfl⟩

end

end RecordQuery
