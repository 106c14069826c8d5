import RecordQuery.Proofs.Json.Reading
import RecordQuery.Proofs.Number.Numeral
import RecordQuery.Proofs.Text.Paths
import RecordQuery.Query.Lines
/-!
# Records written on lines

The text of a value has no control characters, as strings have escapes for them
(`Json.noControls_compact`). So every record is written on one line, and the lines of
what is written are the texts of the records (`linesOf_textOfRecords`).
-/

namespace RecordQuery

/-! ## Control characters -/

/-- No character of a text is a control character. -/
def NoControls (cs : List Char) : Prop := ∀ c ∈ cs, 0x20 ≤ c.toNat

instance (cs : List Char) : Decidable (NoControls cs) := List.decidableBAll _ cs

namespace NoControls

variable {cs ds : List Char}

theorem nil : NoControls [] := nofun

theorem cons {c : Char} (hc : 0x20 ≤ c.toNat) (h : NoControls cs) : NoControls (c :: cs) :=
  List.forall_mem_cons.2 ⟨hc, h⟩

theorem append (hcs : NoControls cs) (hds : NoControls ds) : NoControls (cs ++ ds) :=
  List.forall_mem_append.2 ⟨hcs, hds⟩

theorem of_digits (h : Digits cs) : NoControls cs := by
  intro c hc
  have hzero : '0'.toNat = 0x30 := rfl
  have := (Char.isDigit_iff_toNat.1 (h c hc)).1
  omega

theorem not_mem_newline (h : NoControls cs) : '\n' ∉ cs :=
  fun hmem => absurd (h '\n' hmem) (by decide)

end NoControls

/-! ## Values -/

theorem noControls_if {cs : List Char} (p : Prop) [Decidable p] (h : NoControls cs) :
    NoControls (if p then cs else []) := by
  split
  · exact h
  · exact .nil

theorem Mantissa.noControls {cs w : List Char} {fraction : Option (List Char)}
    (h : Mantissa cs w fraction) : NoControls cs := by
  cases h with
  | whole hw => exact .of_digits hw.digits
  | pointed hw hne hf =>
    exact (NoControls.of_digits hw.digits).append ((NoControls.of_digits hf).cons (by decide))

theorem Json.Exponent.noControls {cs : List Char} {e : Option Int} (h : Json.Exponent cs e) :
    NoControls cs := by
  have hletter {c : Char} {w : List Char} (hc : c = 'e' ∨ c = 'E') (hw : NoControls w) :
      NoControls (c :: w) := by
    refine .cons ?_ hw
    rcases hc with rfl | rfl <;> decide
  cases h with
  | none => exact .nil
  | unsigned hc _ hw => exact hletter hc (.of_digits hw)
  | plus hc _ hw => exact hletter hc (.cons (by decide) (.of_digits hw))
  | minus hc _ hw => exact hletter hc (.cons (by decide) (.of_digits hw))

theorem Json.IsNumeral.noControls {cs : List Char} (h : Json.IsNumeral cs) : NoControls cs := by
  obtain ⟨negative, hm, he⟩ := h
  exact (noControls_if _ (by decide)).append (hm.noControls.append he.noControls)

theorem le_toNat_hexDigit {n : Nat} (hn : n < 16) : 0x20 ≤ (hexDigit n).toNat := by
  revert n
  decide

namespace Json

theorem noControls_escape (c : Char) : NoControls (Value.escape c) := by
  rw [Value.escape]
  iterate 7
    split
    · decide
  split
  · -- a control character is written with the digits of its code
    have hdigits : NoControls [hexDigit (c.toNat / 16), hexDigit (c.toNat % 16)] :=
      .cons (le_toNat_hexDigit (by omega)) (.cons (le_toNat_hexDigit (by omega)) .nil)
    exact (by decide : NoControls ['\\', 'u', '0', '0']).append hdigits
  · exact .cons (by omega) .nil

theorem noControls_stringText (s : String) : NoControls (Value.stringText s) := by
  have hinside : NoControls (s.toList.flatMap Value.escape) := by
    intro c hc
    obtain ⟨d, -, hd⟩ := List.mem_flatMap.1 hc
    exact noControls_escape d c hd
  exact (hinside.append (by decide)).cons (by decide)

variable [Format]

mutual

/-- **The text of a value has no control characters.** -/
theorem noControls_compact (h : Format.Conforms) :
    (v : Value) → NoControls (v.compact Format.numeral)
  | .null => by rw [Value.compact]; decide
  | .bool true => by rw [Value.compact]; decide
  | .bool false => by rw [Value.compact]; decide
  | .number n => by
    rw [Value.compact]
    exact (h.isNumeral n).noControls
  | .string s => by
    rw [Value.compact]
    exact noControls_stringText s
  | .array [] => by rw [Value.compact]; decide
  | .array (v :: rest) => by
    rw [Value.compact]
    exact ((noControls_compact h v).append (noControls_compactItems h rest)).cons (by decide)
  | .object [] => by rw [Value.compact]; decide
  | .object ((k, v) :: rest) => by
    rw [Value.compact]
    exact ((noControls_stringText k).append (((noControls_compact h v).append
      (noControls_compactMembers h rest)).cons (by decide))).cons (by decide)

theorem noControls_compactItems (h : Format.Conforms) :
    (items : List Value) → NoControls (Value.compactItems Format.numeral items)
  | [] => by rw [Value.compactItems]; decide
  | v :: rest => by
    rw [Value.compactItems]
    exact ((noControls_compact h v).append (noControls_compactItems h rest)).cons (by decide)

theorem noControls_compactMembers (h : Format.Conforms) :
    (members : List (String × Value)) →
      NoControls (Value.compactMembers Format.numeral members)
  | [] => by rw [Value.compactMembers]; decide
  | (k, v) :: rest => by
    rw [Value.compactMembers]
    exact ((noControls_stringText k).append (((noControls_compact h v).append
      (noControls_compactMembers h rest)).cons (by decide))).cons (by decide)

end

theorem Format.Conforms.toList_text (h : Format.Conforms) (v : Value) :
    v.text.toList = v.compact Format.numeral := by
  rw [Value.text, h.write_eq, String.toList_ofList]

theorem Format.Conforms.noControls_text (h : Format.Conforms) (v : Value) :
    NoControls v.text.toList :=
  h.toList_text v ▸ noControls_compact h v

end Json

/-! ## Lines -/

open Json

theorem linesOf_ne_nil (cs : List Char) : linesOf cs ≠ [] := by
  rw [linesOf]
  cases hpieces : pieces '\n' cs with
  | nil => exact absurd hpieces (pieces_ne_nil '\n' cs)
  | cons line rest => cases rest <;> exact List.cons_ne_nil _ _

/-- A line without control characters ends in no carriage return. -/
theorem NoControls.withoutReturn_eq {line : List Char} (h : NoControls line) :
    withoutReturn line = line := by
  rw [withoutReturn, if_neg]
  intro hlast
  exact absurd (h '\r' (List.mem_of_getLast? hlast)) (by decide)

theorem linesOfPieces_append {lines : List (List Char)} (h : ∀ line ∈ lines, NoControls line)
    (last : List Char) : linesOfPieces (lines ++ [last]) = lines ++ [last] := by
  induction lines with
  | nil => rfl
  | cons line rest ih =>
    obtain ⟨hline, hrest⟩ := List.forall_mem_cons.1 h
    cases rest with
    | nil => exact congrArg (· :: [last]) hline.withoutReturn_eq
    | cons next rest =>
      exact congrArg₂ (· :: ·) hline.withoutReturn_eq (ih hrest)

variable [Format]

/-- **Records are written on one line each**, and nothing is written behind
them. -/
theorem pieces_textOfRecords (h : Format.Conforms) (records : List Value) :
    pieces '\n' (textOfRecords records).toList = records.map (·.text.toList) ++ [[]] := by
  rw [textOfRecords, String.toList_ofList]
  induction records with
  | nil => rfl
  | cons v rest ih =>
    rw [List.flatMap_cons, List.append_assoc, List.singleton_append,
      pieces_append (h.noControls_text v).not_mem_newline, ih]
    rfl

/-- **The lines of what is written are the texts of the records**, and an empty one behind
them. -/
theorem linesOf_textOfRecords (h : Format.Conforms) (records : List Value) :
    linesOf (textOfRecords records).toList = records.map (·.text.toList) ++ [[]] := by
  rw [linesOf, pieces_textOfRecords h]
  refine linesOfPieces_append (List.forall_mem_map.2 fun v _ => h.noControls_text v) []

end RecordQuery
