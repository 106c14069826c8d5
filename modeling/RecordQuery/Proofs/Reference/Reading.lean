import RecordQuery.Proofs.Json.Reading
import RecordQuery.Proofs.Reference.Numerals
/-!
# The texts of the grammar are read

The reader reads any text of an outline as the outline (`outline?_of_writtenAs`): spaces
wherever they may stand, strings by their escapes, numerals up to their ends, and arrays and
objects by the texts of what they hold.
-/

namespace RecordQuery

namespace Reference

open Json

/-! ## Spaces -/

variable {cs text inner inside s rest behind more : List Char}

theorem skipSpaces_cons {c : Char} (h : isSpace c = false) : skipSpaces (c :: cs) = c :: cs :=
  List.dropWhile_cons_of_neg (Bool.eq_false_iff.1 h)

theorem skipSpaces_append (h : Spaces cs) : skipSpaces (cs ++ rest) = skipSpaces rest :=
  List.dropWhile_append_of_pos h

theorem endsNumber_cons {c : Char} (h : continuesNumber c = false) : EndsNumber (c :: rest) := by
  intro d hd
  obtain rfl : c = d := Option.some.inj hd
  exact h

/-- No number goes on behind a space. -/
theorem EndsNumber.spaces_append (hr : EndsNumber rest) (h : Spaces cs) :
    EndsNumber (cs ++ rest) := by
  cases cs with
  | nil => exact hr
  | cons c cs =>
    refine endsNumber_cons ?_
    have hc := h c List.mem_cons_self
    simp only [isSpace, Bool.or_eq_true, beq_iff_eq] at hc
    rcases hc with ((rfl | rfl) | rfl) | rfl <;> decide

/-! ## Reading -/

/-- What is read from the beginning of a text, and what is left behind it. -/
def Reads {α : Type} (cs : List Char) (r : Option (α × Behind cs)) (a : α) (rest : List Char) :
    Prop :=
  ∃ h, r = some (a, ⟨rest, h⟩)

variable {items : List Outline} {members : List (Option String × Outline)} {o : Outline}

theorem reads_null (hs : skipSpaces cs = 'n' :: 'u' :: 'l' :: 'l' :: rest) :
    Reads cs (readOutline cs) .null rest := by
  rw [readOutline]
  split
  case h_1 after h =>
    obtain rfl : rest = after := by simpa using hs.symm.trans h
    exact ⟨_, rfl⟩
  all_goals simp_all

theorem reads_true (hs : skipSpaces cs = 't' :: 'r' :: 'u' :: 'e' :: rest) :
    Reads cs (readOutline cs) (.bool true) rest := by
  rw [readOutline]
  split
  case h_2 after h =>
    obtain rfl : rest = after := by simpa using hs.symm.trans h
    exact ⟨_, rfl⟩
  all_goals simp_all

theorem reads_false (hs : skipSpaces cs = 'f' :: 'a' :: 'l' :: 's' :: 'e' :: rest) :
    Reads cs (readOutline cs) (.bool false) rest := by
  rw [readOutline]
  split
  case h_3 after h =>
    obtain rfl : rest = after := by simpa using hs.symm.trans h
    exact ⟨_, rfl⟩
  all_goals simp_all

theorem reads_string {s : Option String} (hs : skipSpaces cs = '"' :: inner)
    (h : readString (some []) inner = some (s, rest)) :
    Reads cs (readOutline cs) (.string s) rest := by
  rw [readOutline]
  split
  case h_4 after hs' =>
    obtain rfl : inner = after := (List.cons.inj (hs.symm.trans hs')).2
    split
    · next hr =>
      obtain ⟨rfl, rfl⟩ := Prod.mk.inj (Option.some.inj (h.symm.trans hr))
      exact ⟨_, rfl⟩
    · next hr => exact absurd (h.symm.trans hr) (by simp)
  all_goals simp_all

/-- Only a number starts with a minus or a digit. -/
theorem start_of_readNumber {r : Option Number × List Char} (h : readNumber cs = some r) :
    ∃ c more, cs = c :: more ∧ (c = '-' ∨ c.isDigit = true) := by
  have hdigits : ∃ w, readDigits (readMinus cs).2 = some w := by
    simp only [readNumber, bind, Option.bind_eq_some_iff] at h
    obtain ⟨w, hw, -⟩ := h
    exact ⟨w, hw⟩
  obtain ⟨w, hw⟩ := hdigits
  cases cs with
  | nil => cases hw
  | cons c more =>
    refine ⟨c, more, rfl, ?_⟩
    by_cases hminus : c = '-'
    · exact .inl hminus
    · right
      rw [readMinus] at hw
      · by_contra hc
        rw [readDigits, List.takeWhile_cons_of_neg hc] at hw
        cases hw
      · rintro more' heq
        exact hminus (List.cons.inj heq).1

theorem isSpace_of_start {c : Char} (h : c = '-' ∨ c.isDigit = true) : isSpace c = false := by
  refine Bool.eq_false_iff.2 fun hc => ?_
  simp only [isSpace, Bool.or_eq_true, beq_iff_eq] at hc
  rcases hc with ((rfl | rfl) | rfl) | rfl <;> revert h <;> decide

theorem reads_number {n : Option Number} (h : readNumber (skipSpaces cs) = some (n, rest)) :
    Reads cs (readOutline cs) (.number n) rest := by
  obtain ⟨c, more, hs, hc⟩ := start_of_readNumber h
  rw [readOutline]
  split
  case h_7 =>
    split
    · next hr =>
      obtain ⟨rfl, rfl⟩ := Prod.mk.inj (Option.some.inj (h.symm.trans hr))
      exact ⟨_, rfl⟩
    · next hr => exact absurd (h.symm.trans hr) (by simp)
  all_goals
    next hs' =>
      obtain ⟨rfl, -⟩ := List.cons.inj (hs.symm.trans hs')
      exact absurd hc (by decide)

/-- No value starts with a closing bracket. -/
theorem readOutline_of_bracket (h : skipSpaces cs = ']' :: more) : readOutline cs = none := by
  rw [readOutline]
  split
  case h_7 =>
    split
    · next hr =>
      rw [h] at hr
      obtain ⟨c, cs, heq, hc⟩ := start_of_readNumber hr
      obtain ⟨rfl, -⟩ := List.cons.inj heq
      exact absurd hc (by decide)
    · rfl
  all_goals simp_all

theorem reads_emptyArray (hs : skipSpaces cs = '[' :: inner) (he : skipSpaces inner = ']' :: rest) :
    Reads cs (readOutline cs) (.array []) rest := by
  rw [readOutline]
  split
  case h_5 after hs' =>
    obtain rfl : inner = after := (List.cons.inj (hs.symm.trans hs')).2
    split
    · next he' =>
      obtain rfl : rest = _ := (List.cons.inj (he.symm.trans he')).2
      exact ⟨_, rfl⟩
    · next hne => exact absurd he (hne _)
  all_goals simp_all

theorem reads_emptyObject (hs : skipSpaces cs = '{' :: inner)
    (he : skipSpaces inner = '}' :: rest) : Reads cs (readOutline cs) (.object []) rest := by
  rw [readOutline]
  split
  case h_6 after hs' =>
    obtain rfl : inner = after := (List.cons.inj (hs.symm.trans hs')).2
    split
    · next he' =>
      obtain rfl : rest = _ := (List.cons.inj (he.symm.trans he')).2
      exact ⟨_, rfl⟩
    · next hne => exact absurd he (hne _)
  all_goals simp_all

theorem reads_array (hs : skipSpaces cs = '[' :: inner)
    (h : Reads inner (readItems inner) items rest) :
    Reads cs (readOutline cs) (.array items) rest := by
  obtain ⟨hlt, h⟩ := h
  rw [readOutline]
  split
  case h_5 after hs' =>
    obtain rfl : inner = after := (List.cons.inj (hs.symm.trans hs')).2
    split
    · next he =>
      rw [readItems, readOutline_of_bracket he] at h
      cases h
    · rw [h]
      exact ⟨_, rfl⟩
  all_goals simp_all

/-- The members of an object start with a quote. -/
theorem quote_of_readMembers {r : List (Option String × Outline) × Behind cs}
    (h : readMembers cs = some r) : ∃ more, skipSpaces cs = '"' :: more := by
  rw [readMembers] at h
  split at h
  · next hs => exact ⟨_, hs⟩
  · cases h

theorem reads_object (hs : skipSpaces cs = '{' :: inner)
    (h : Reads inner (readMembers inner) members rest) :
    Reads cs (readOutline cs) (.object members) rest := by
  obtain ⟨hlt, h⟩ := h
  rw [readOutline]
  split
  case h_6 after hs' =>
    obtain rfl : inner = after := (List.cons.inj (hs.symm.trans hs')).2
    split
    · next he =>
      obtain ⟨more, hquote⟩ := quote_of_readMembers h
      exact absurd (he.symm.trans hquote) (by simp)
    · rw [h]
      exact ⟨_, rfl⟩
  all_goals simp_all

/-- Behind an item the array ends, or there is a comma and another item. -/
theorem reads_item (h : Reads cs (readOutline cs) o behind)
    (hrest : skipSpaces behind = ']' :: rest ∧ items = [] ∨
      ∃ more, skipSpaces behind = ',' :: more ∧ Reads more (readItems more) items rest) :
    Reads cs (readItems cs) (o :: items) rest := by
  obtain ⟨hlt, h⟩ := h
  rw [readItems, h]
  simp only [bind, Option.bind_some]
  rcases hrest with ⟨hs, rfl⟩ | ⟨more, hs, hlt', hitems⟩
  · split
    case h_2 after hs' =>
      obtain rfl : rest = after := (List.cons.inj (hs.symm.trans hs')).2
      exact ⟨_, rfl⟩
    all_goals simp_all
  · split
    case h_1 after hs' =>
      obtain rfl : more = after := (List.cons.inj (hs.symm.trans hs')).2
      rw [hitems]
      exact ⟨_, rfl⟩
    all_goals simp_all

/-- Behind a member the object ends, or there is a comma and another member. -/
theorem reads_member {key : Option String} {colon : List Char}
    (hquote : skipSpaces cs = '"' :: inner)
    (hkey : readString (some []) inner = some (key, colon))
    (hcolon : skipSpaces colon = ':' :: more)
    (h : Reads more (readOutline more) o behind)
    (hrest : skipSpaces behind = '}' :: rest ∧ members = [] ∨
      ∃ next, skipSpaces behind = ',' :: next ∧ Reads next (readMembers next) members rest) :
    Reads cs (readMembers cs) ((key, o) :: members) rest := by
  obtain ⟨hlt, h⟩ := h
  rw [readMembers]
  split
  case h_2 => simp_all
  case h_1 after hs =>
    obtain rfl : inner = after := (List.cons.inj (hquote.symm.trans hs)).2
    split
    · next hr => simp_all
    next hr =>
    obtain ⟨rfl, rfl⟩ := Prod.mk.inj (Option.some.inj (hkey.symm.trans hr))
    split
    case h_2 => simp_all
    case h_1 after hc =>
      obtain rfl : more = after := (List.cons.inj (hcolon.symm.trans hc)).2
      rw [h]
      simp only [bind, Option.bind_some]
      rcases hrest with ⟨hs, rfl⟩ | ⟨next, hs, hlt', hmembers⟩
      · split
        case h_2 after hb =>
          obtain rfl : rest = after := (List.cons.inj (hs.symm.trans hb)).2
          exact ⟨_, rfl⟩
        all_goals simp_all
      · split
        case h_1 after hb =>
          obtain rfl : next = after := (List.cons.inj (hs.symm.trans hb)).2
          rw [hmembers]
          exact ⟨_, rfl⟩
        all_goals simp_all

/-! ## Strings -/

theorem lowSurrogate?_cons {a b c d : Char} {n : Nat} (hcode : codeUnit? a b c d = some n)
    (hlow : IsLow n) :
    lowSurrogate? ('\\' :: 'u' :: a :: b :: c :: d :: rest) = some (n, rest) := by
  simp only [lowSurrogate?, hcode, if_pos hlow]

/-- The halves of a surrogate pair are read as one character. -/
theorem readString_pair (read : Option (List Char)) {a b c d : Char} {n m : Nat}
    (hcode : codeUnit? a b c d = some n) (hhigh : IsHigh n)
    (hlow : lowSurrogate? cs = some (m, rest)) :
    readString read ('\\' :: 'u' :: a :: b :: c :: d :: cs) =
      readString (read.map (pairChar n m :: ·)) rest := by
  rw [readString]
  simp only [hcode, if_pos hhigh]
  split
  · next h =>
    obtain ⟨rfl, rfl⟩ := Prod.mk.inj (Option.some.inj (hlow.symm.trans h))
    rfl
  · next h => simp [hlow] at h

theorem readString_coded (read : Option (List Char)) {a b c d : Char} {n : Nat}
    (h : codeUnit? a b c d = some n) (hhigh : ¬ IsHigh n) (hlow : ¬ IsLow n) :
    readString read ('\\' :: 'u' :: a :: b :: c :: d :: rest) =
      readString (read.map (Char.ofNat n :: ·)) rest := by
  rw [readString]
  simp only [h, if_neg hhigh, if_neg hlow]

theorem readString_escaped (read : Option (List Char)) {e c : Char} (h : escaped? e = some c) :
    readString read ('\\' :: e :: rest) = readString (read.map (c :: ·)) rest := by
  have he : e ≠ 'u' := by
    rintro rfl
    have hu : escaped? 'u' = none := by decide
    simp [hu] at h
  rw [readString]
  · simp only [h]
  · exact fun _ _ _ _ _ heq => absurd heq he

theorem readString_plain (read : Option (List Char)) {c : Char} (hquote : c ≠ '"')
    (hescape : c ≠ '\\') (hc : 0x20 ≤ c.toNat) :
    readString read (c :: rest) = readString (read.map (c :: ·)) rest := by
  rw [readString]
  · rw [if_neg (by omega)]
  · exact hquote
  · rintro a b c' d rest' rfl
    exact absurd rfl hescape
  · rintro e rest' rfl
    exact absurd rfl hescape

/-- **A string is read up to its quote**, character by character. -/
theorem readString_inside (h : Inside inside s) (read : List Char) :
    readString (some read) (inside ++ '"' :: rest) =
      some (some (String.ofList (read.reverse ++ s)), rest) := by
  have hcons (r : List Char) (c : Char) (s : List Char) :
      (c :: r).reverse ++ s = r.reverse ++ c :: s := by
    rw [List.reverse_cons, List.append_assoc, List.singleton_append]
  induction h generalizing read with
  | nil =>
    rw [List.nil_append, readString, List.append_nil]
    rfl
  | plain hquote hescape hc _ ih =>
    rw [List.cons_append, readString_plain _ hquote hescape hc, Option.map_some, ih, hcons]
  | escaped hc _ ih =>
    rw [List.cons_append, List.cons_append, readString_escaped _ hc, Option.map_some, ih, hcons]
  | coded hn hhigh hlow _ ih =>
    simp only [List.cons_append]
    rw [readString_coded _ hn hhigh hlow, Option.map_some, ih, hcons]
  | pair hn hhigh hm hlow _ ih =>
    simp only [List.cons_append]
    rw [readString_pair _ hn hhigh (lowSurrogate?_cons hm hlow), Option.map_some, ih, hcons]

/-- A string is read behind its first quote. -/
theorem exists_read_of_stringText {s : String} (h : StringText s text) (rest : List Char) :
    ∃ inner, text ++ rest = '"' :: inner ∧ readString (some []) inner = some (some s, rest) := by
  obtain ⟨inside, rfl, hinside⟩ := h
  refine ⟨inside ++ '"' :: rest, by simp, ?_⟩
  rw [readString_inside hinside, List.reverse_nil, List.nil_append, String.ofList_toList]

/-- A key is read up to its colon. -/
theorem exists_read_of_keyText {key : String} (h : KeyText key text) (more : List Char) :
    ∃ inner colon, skipSpaces (text ++ ':' :: more) = '"' :: inner ∧
      readString (some []) inner = some (some key, colon) ∧ skipSpaces colon = ':' :: more := by
  obtain ⟨before, string, after, rfl, hbefore, hstring, hafter⟩ := h
  obtain ⟨inner, hquote, hread⟩ := exists_read_of_stringText hstring (after ++ ':' :: more)
  refine ⟨inner, after ++ ':' :: more, ?_, hread, ?_⟩
  · rw [List.append_assoc, List.append_assoc, skipSpaces_append hbefore, hquote]
    exact skipSpaces_cons rfl
  · rw [skipSpaces_append hafter]
    exact skipSpaces_cons rfl

/-! ## Texts of outlines -/

mutual

/-- **The text of an outline is read as the outline**, behind any spaces, and up to the
spaces behind it. -/
theorem reads_value {o : Outline} {text rest cs : List Char} (h : o.WrittenAs text)
    (hr : EndsNumber rest) (hcs : skipSpaces cs = skipSpaces (text ++ rest)) :
    ∃ behind, Reads cs (readOutline cs) o behind ∧ skipSpaces behind = skipSpaces rest := by
  match h with
  | .null => exact ⟨rest, reads_null hcs, rfl⟩
  | .true => exact ⟨rest, reads_true hcs, rfl⟩
  | .false => exact ⟨rest, reads_false hcs, rfl⟩
  | .number h =>
    have hread := readNumber_numeral h hr
    obtain ⟨c, more, htext, hc⟩ := start_of_readNumber hread
    rw [htext, skipSpaces_cons (isSpace_of_start hc), ← htext] at hcs
    exact ⟨rest, reads_number (hcs ▸ hread), rfl⟩
  | .string h =>
    obtain ⟨inner, htext, hread⟩ := exists_read_of_stringText h rest
    rw [htext] at hcs
    exact ⟨rest, reads_string hcs hread, rfl⟩
  | .emptyArray hgap =>
    refine ⟨rest, reads_emptyArray hcs ?_, rfl⟩
    rw [List.append_eq, List.append_assoc, skipSpaces_append hgap]
    exact skipSpaces_cons rfl
  | .array h => exact ⟨rest, reads_array hcs (reads_items h rest), rfl⟩
  | .emptyObject hgap =>
    refine ⟨rest, reads_emptyObject hcs ?_, rfl⟩
    rw [List.append_eq, List.append_assoc, skipSpaces_append hgap]
    exact skipSpaces_cons rfl
  | .object h => exact ⟨rest, reads_object hcs (reads_members h rest), rfl⟩
  | .spaced hbefore h hafter =>
    rw [List.append_assoc, List.append_assoc, skipSpaces_append hbefore] at hcs
    obtain ⟨behind, hread, hbehind⟩ := reads_value h (hr.spaces_append hafter) hcs
    exact ⟨behind, hread, hbehind.trans (skipSpaces_append hafter)⟩

/-- The items of an array are read up to its end. -/
theorem reads_items {items : List Outline} {text : List Char}
    (h : Outline.ItemsWrittenAs items text) (rest : List Char) :
    Reads (text ++ rest) (readItems (text ++ rest)) items rest := by
  match h with
  | .last h =>
    have hend : EndsNumber (']' :: rest) := endsNumber_cons (by decide)
    rw [List.append_assoc, List.singleton_append]
    obtain ⟨behind, hread, hbehind⟩ := reads_value h hend rfl
    exact reads_item hread (.inl ⟨hbehind.trans (skipSpaces_cons rfl), rfl⟩)
  | @Outline.ItemsWrittenAs.more _ _ _ _ ds h hitems =>
    have hend : EndsNumber (',' :: (ds ++ rest)) := endsNumber_cons (by decide)
    rw [List.append_assoc, List.cons_append]
    obtain ⟨behind, hread, hbehind⟩ := reads_value h hend rfl
    exact reads_item hread (.inr ⟨_, hbehind.trans (skipSpaces_cons rfl), reads_items hitems rest⟩)

/-- The members of an object are read up to its end. -/
theorem reads_members {members : List (Option String × Outline)} {text : List Char}
    (h : Outline.MembersWrittenAs members text) (rest : List Char) :
    Reads (text ++ rest) (readMembers (text ++ rest)) members rest := by
  match h with
  | .last hkey h =>
    have hend : EndsNumber ('}' :: rest) := endsNumber_cons (by decide)
    rw [List.append_assoc, List.cons_append, List.append_assoc, List.singleton_append]
    obtain ⟨inner, colon, hquote, hstring, hcolon⟩ := exists_read_of_keyText hkey _
    obtain ⟨behind, hread, hbehind⟩ := reads_value h hend rfl
    exact reads_member hquote hstring hcolon hread
      (.inl ⟨hbehind.trans (skipSpaces_cons rfl), rfl⟩)
  | @Outline.MembersWrittenAs.more _ _ _ _ _ _ ds hkey h hmembers =>
    have hend : EndsNumber (',' :: (ds ++ rest)) := endsNumber_cons (by decide)
    rw [List.append_assoc, List.cons_append, List.append_assoc, List.cons_append]
    obtain ⟨inner, colon, hquote, hstring, hcolon⟩ := exists_read_of_keyText hkey _
    obtain ⟨behind, hread, hbehind⟩ := reads_value h hend rfl
    exact reads_member hquote hstring hcolon hread
      (.inr ⟨_, hbehind.trans (skipSpaces_cons rfl), reads_members hmembers rest⟩)

end

/-- **A text is read as the outline that it is a text of.** -/
theorem outline?_of_writtenAs {text : String} (h : o.WrittenAs text.toList) :
    outline? text = some o := by
  obtain ⟨behind, ⟨_, hread⟩, hbehind⟩ :=
    reads_value h endsNumber_nil (congrArg skipSpaces (List.append_nil _).symm)
  rw [outline?, hread]
  simp only [bind, Option.bind_some, hbehind]
  rfl

/-! ## The format -/

/-- **The format does what is documented of a library for JSON.** -/
theorem format_conforms : Format.Conforms where
  read_of_writtenAs := outline?_of_writtenAs
  write_eq _ := rfl
  isNumeral := isNumeral_numeral
  numeral_integer _ _ := rfl
  number?_integer n fits := number?_numeral (.integer n fits)

/-- **The format reads every finite floating-point number back.** -/
theorem format_readsFloatsBack : Format.ReadsFloatsBack :=
  fun x finite => number?_numeral (.float x finite)

/-- The text of a value is a text of its outline, whatever its numbers are. -/
theorem writtenAs_text (v : Value) : v.outline.WrittenAs v.text.toList :=
  format_conforms.writtenAs_text fun n _ => format_conforms.readBack format_readsFloatsBack n

/-- The text of a value is read as its outline. -/
theorem parse?_text (v : Value) : parse? v.text = Value.ofOutline? 127 v.outline := by
  rw [parse?, format_conforms.read_of_writtenAs (writtenAs_text v)]
  rfl

end Reference

end RecordQuery
