import RecordQuery.Json.Grammar
/-!
# Values read back from their texts

The text of a value without spaces is a text of its outline (`Value.writtenAs_compact`),
as far as its numbers are found again in their numerals. So a format that conforms to the
grammar reads it as that (`Format.Conforms.read_text`). The text of a string has an escape
for every character that may not stand in it.
-/

namespace RecordQuery

namespace Json

/-! ## Strings -/

/-- A character is written with a letter behind a backslash, with four digits
behind a backslash, or as it is. -/
theorem escape_cases (c : Char) :
    (∃ e, escaped? e = some c ∧ Value.escape c = ['\\', e]) ∨
    (c.toNat < 0x20 ∧ Value.escape c =
      ['\\', 'u', '0', '0', hexDigit (c.toNat / 16), hexDigit (c.toNat % 16)]) ∨
    (c ≠ '"' ∧ c ≠ '\\' ∧ 0x20 ≤ c.toNat ∧ Value.escape c = [c]) := by
  rw [Value.escape]
  iterate 7
    split
    · next h =>
      subst h
      exact .inl ⟨_, by decide, rfl⟩
  split
  · next h => exact .inr (.inl ⟨h, rfl⟩)
  · exact .inr (.inr ⟨‹_›, ‹_›, by omega, rfl⟩)

/-- What a character is written as stands for the character. -/
theorem Inside.escape {cs s : List Char} (h : Inside cs s) (c : Char) :
    Inside (Value.escape c ++ cs) (c :: s) := by
  rcases escape_cases c with ⟨e, he, htext⟩ | ⟨hc, htext⟩ | ⟨hquote, hescape, hc, htext⟩
  · rw [htext]
    exact .escaped he h
  · have hcode : codeUnit? '0' '0' (hexDigit (c.toNat / 16)) (hexDigit (c.toNat % 16)) =
        some c.toNat := by
      have hzero : hexValue? '0' = some 0 := by decide
      simp only [codeUnit?, hzero, hexValue?_hexDigit (show c.toNat / 16 < 16 by omega),
        hexValue?_hexDigit (show c.toNat % 16 < 16 by omega)]
      show some _ = some _
      congr 1
      omega
    have hhigh : ¬ IsHigh c.toNat := fun h => by have := h.1; omega
    have hlow : ¬ IsLow c.toNat := fun h => by have := h.1; omega
    rw [htext, ← Char.ofNat_toNat c]
    exact .coded (by rwa [Char.ofNat_toNat]) hhigh hlow h
  · rw [htext]
    exact .plain hquote hescape hc h

theorem inside_flatMap_escape (s : List Char) : Inside (s.flatMap Value.escape) s := by
  induction s with
  | nil => exact .nil
  | cons c s ih =>
    rw [List.flatMap_cons]
    exact ih.escape c

theorem stringText_stringText (s : String) : StringText s (Value.stringText s) :=
  ⟨s.toList.flatMap Value.escape, rfl, inside_flatMap_escape s.toList⟩

theorem Spaces.nil : Spaces [] := nofun

theorem keyText_stringText (key : String) : KeyText key (Value.stringText key) :=
  ⟨[], Value.stringText key, [], (List.append_nil _).symm, .nil, stringText_stringText key, .nil⟩

/-! ## Outlines and numbers of values -/

mutual

/-- The outline of a value. -/
def Value.outline : Value → Outline
  | .null => .null
  | .bool b => .bool b
  | .number n => .number (some n)
  | .string s => .string (some s)
  | .array items => .array (outlines items)
  | .object members => .object (memberOutlines members)

/-- The outlines of values. -/
def outlines : List Value → List Outline
  | [] => []
  | v :: rest => v.outline :: outlines rest

/-- The outlines of members. -/
def memberOutlines : List (String × Value) → List (Option String × Outline)
  | [] => []
  | (key, v) :: rest => (some key, v.outline) :: memberOutlines rest

end

mutual

/-- The numbers in a value. -/
def Value.numbers : Value → List Number
  | .number n => [n]
  | .array items => itemNumbers items
  | .object members => memberNumbers members
  | .null | .bool _ | .string _ => []

/-- The numbers in values. -/
def itemNumbers : List Value → List Number
  | [] => []
  | v :: rest => v.numbers ++ itemNumbers rest

/-- The numbers in members. -/
def memberNumbers : List (String × Value) → List Number
  | [] => []
  | (_, v) :: rest => v.numbers ++ memberNumbers rest

end

/-! ## Texts of values -/

variable [Format]

/-- Whether a number is found again in its numeral. -/
def Number.ReadBack (n : Number) : Prop := Format.number? (Format.numeral n) = some n

namespace Format.Conforms

/-- Integers are found again, and so are all numbers if the others are. -/
theorem readBack (h : Format.Conforms) (hfloats : Format.ReadsFloatsBack) (n : Number) :
    n.ReadBack := by
  cases n with
  | integer n fits => rw [Number.ReadBack, h.numeral_integer, h.number?_integer]
  | float x finite => exact hfloats x finite

end Format.Conforms

namespace Value

mutual

/-- **A value's text is a text of its outline.** -/
theorem writtenAs_compact (h : Format.Conforms) (v : Value)
    (hback : ∀ n ∈ v.numbers, n.ReadBack) : v.outline.WrittenAs (v.compact Format.numeral) := by
  match v with
  | .null => exact .null
  | .bool true => exact .true
  | .bool false => exact .false
  | .number n =>
    have hn : n.ReadBack := hback n (List.mem_singleton_self n)
    have hnumeral := Outline.WrittenAs.number (h.isNumeral n)
    rw [hn] at hnumeral
    exact hnumeral
  | .string s => exact .string (stringText_stringText s)
  | .array [] => exact .emptyArray .nil
  | .array (v :: rest) =>
    obtain ⟨hv, hrest⟩ := List.forall_mem_append.1 hback
    exact .array (itemsWrittenAs_compactItems h rest hrest (writtenAs_compact h v hv))
  | .object [] => exact .emptyObject .nil
  | .object ((key, v) :: rest) =>
    obtain ⟨hv, hrest⟩ := List.forall_mem_append.1 hback
    exact .object (membersWrittenAs_compactMembers h rest hrest (keyText_stringText key)
      (writtenAs_compact h v hv))

/-- Behind the text of one item, the texts of others are texts of their outlines. -/
theorem itemsWrittenAs_compactItems (h : Format.Conforms) (items : List Value)
    (hback : ∀ n ∈ itemNumbers items, n.ReadBack) {o : Outline} {cs : List Char}
    (hcs : o.WrittenAs cs) :
    Outline.ItemsWrittenAs (o :: outlines items) (cs ++ compactItems Format.numeral items) := by
  match items with
  | [] => exact .last hcs
  | v :: rest =>
    obtain ⟨hv, hrest⟩ := List.forall_mem_append.1 hback
    exact .more hcs (itemsWrittenAs_compactItems h rest hrest (writtenAs_compact h v hv))

/-- Behind the text of one member, the texts of others are texts of their outlines. -/
theorem membersWrittenAs_compactMembers (h : Format.Conforms) (members : List (String × Value))
    (hback : ∀ n ∈ memberNumbers members, n.ReadBack) {key : String} {o : Outline}
    {ks cs : List Char} (hkey : KeyText key ks) (hcs : o.WrittenAs cs) :
    Outline.MembersWrittenAs ((some key, o) :: memberOutlines members)
      (ks ++ ':' :: (cs ++ compactMembers Format.numeral members)) := by
  match members with
  | [] => exact .last hkey hcs
  | (key', v) :: rest =>
    obtain ⟨hv, hrest⟩ := List.forall_mem_append.1 hback
    exact .more hkey hcs (membersWrittenAs_compactMembers h rest hrest (keyText_stringText key')
      (writtenAs_compact h v hv))

end

end Value

/-- What a value is written as is a text of its outline. -/
theorem Format.Conforms.writtenAs_text (h : Format.Conforms) {v : Value}
    (hback : ∀ n ∈ v.numbers, n.ReadBack) : v.outline.WrittenAs v.text.toList := by
  rw [Value.text, h.write_eq, String.toList_ofList]
  exact v.writtenAs_compact h hback

/-- **The outline of a value's text is the outline of the value.** -/
theorem Format.Conforms.read_text (h : Format.Conforms) {v : Value}
    (hback : ∀ n ∈ v.numbers, n.ReadBack) : Format.read v.text = some v.outline :=
  h.read_of_writtenAs (h.writtenAs_text hback)

end Json

end RecordQuery
