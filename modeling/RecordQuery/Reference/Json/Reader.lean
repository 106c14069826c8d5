import RecordQuery.Json.Grammar
/-!
# A reader of JSON texts

The outline of a text is read from its beginning on, each part of it with the text that
is left behind it. Of a number it is the nearest one that is found in a numeral.
-/

namespace RecordQuery

namespace Reference

open Json

/-! ## Scalars -/

/-- The text behind the spaces at its beginning. -/
def skipSpaces (cs : List Char) : List Char := cs.dropWhile isSpace

/-- The low half of a surrogate pair at the beginning of a text, and the text
behind it. -/
def lowSurrogate? : List Char → Option (Nat × List Char)
  | '\\' :: 'u' :: a :: b :: c :: d :: rest =>
    match codeUnit? a b c d with
    | some n => if IsLow n then some (n, rest) else none
    | none => none
  | _ => none

theorem length_of_lowSurrogate? {cs rest : List Char} {n : Nat}
    (h : lowSurrogate? cs = some (n, rest)) : rest.length < cs.length := by
  simp only [lowSurrogate?] at h
  split at h
  · split at h
    · split at h
      · simp only [Option.some.injEq, Prod.mk.injEq] at h
        rw [← h.2]
        simp only [List.length_cons]
        omega
      · simp only [reduceCtorEq] at h
    · simp only [reduceCtorEq] at h
  · simp only [reduceCtorEq] at h

/-- The rest of a string behind its quote: its characters, after those read
before in reverse order, and the text behind it. The characters are missing if
a surrogate stands alone. -/
def readString (read : Option (List Char)) (cs : List Char) :
    Option (Option String × List Char) :=
  match cs with
  | [] => none
  | '"' :: rest => some (read.map fun r => String.ofList r.reverse, rest)
  | '\\' :: 'u' :: a :: b :: c :: d :: rest =>
    match codeUnit? a b c d with
    | none => none
    | some n =>
      if IsHigh n then
        match h : lowSurrogate? rest with
        | some (m, rest') =>
          have := length_of_lowSurrogate? h
          readString (read.map (pairChar n m :: ·)) rest'
        | none => readString none rest
      else if IsLow n then readString none rest
      else readString (read.map (Char.ofNat n :: ·)) rest
  | '\\' :: e :: rest =>
    match escaped? e with
    | some c => readString (read.map (c :: ·)) rest
    | none => none
  | c :: rest => if c.toNat < 0x20 then none else readString (read.map (c :: ·)) rest
termination_by cs.length

/-- The digits at the beginning of a text, of which there is one at least, and
the text behind them. -/
def readDigits (cs : List Char) : Option (List Char × List Char) :=
  let digits := cs.takeWhile Char.isDigit
  if digits.isEmpty then none else some (digits, cs.dropWhile Char.isDigit)

/-- The digits behind a point, or none without a point. -/
def readFraction (cs : List Char) : Option (Option (List Char) × List Char) :=
  match cs with
  | '.' :: rest => (readDigits rest).map fun r => (some r.1, r.2)
  | _ => some (none, cs)

/-- Whether a text starts with a minus, and the text behind it. -/
def readMinus (cs : List Char) : Bool × List Char :=
  match cs with
  | '-' :: rest => (true, rest)
  | _ => (false, cs)

/-- The text behind a plus at its beginning. -/
def skipPlus (cs : List Char) : List Char :=
  match cs with
  | '+' :: rest => rest
  | _ => cs

/-- The power of ten of an exponent part, or none without one. -/
def readExponent (cs : List Char) : Option (Option Int × List Char) :=
  match cs with
  | c :: rest =>
    if c = 'e' ∨ c = 'E' then
      let negative := (readMinus rest).1
      let unsigned := if negative then (readMinus rest).2 else skipPlus rest
      (readDigits unsigned).map fun r =>
        let n : Int := ofDigits r.1
        (some (if negative then -n else n), r.2)
    else some (none, cs)
  | [] => some (none, cs)

/-- The number with these parts. Without a fraction and an exponent it is an
integer, except for a negative zero. -/
def numberOfParts? (negative : Bool) (whole : List Char) (fraction : Option (List Char))
    (exponent : Option Int) : Option Number :=
  if fraction.isNone ∧ exponent.isNone ∧ ¬(negative ∧ ofDigits whole = 0) then
    let n : Int := ofDigits whole
    Number.ofInt? (if negative then -n else n)
  else
    Number.ofBinary64?
      ((Decimal.ofParts whole (fraction.getD []) (exponent.getD 0)).toBinary64 negative)

/-- The number at the beginning of a text, and the text behind it. A number
does not start with a needless zero. -/
def readNumber (cs : List Char) : Option (Option Number × List Char) := do
  let whole ← readDigits (readMinus cs).2
  if 1 < whole.1.length ∧ whole.1.head? = some '0' then none
  else
    let fraction ← readFraction whole.2
    let exponent ← readExponent fraction.2
    return (numberOfParts? (readMinus cs).1 whole.1 fraction.1 exponent.1, exponent.2)

/-! ## Lengths -/

theorem length_skipSpaces_le (cs : List Char) : (skipSpaces cs).length ≤ cs.length :=
  (List.dropWhile_sublist _).length_le

theorem length_of_readString {read : Option (List Char)} {cs rest : List Char}
    {s : Option String} (h : readString read cs = some (s, rest)) : rest.length < cs.length := by
  fun_induction readString read cs with
  | case1 => simp only [reduceCtorEq] at h
  | case2 =>
    simp only [Option.some.injEq, Prod.mk.injEq] at h
    rw [← h.2, List.length_cons]
    omega
  | case3 => simp only [reduceCtorEq] at h
  | case4 read a b c d rest' n hn hh m rest'' hl hlt ih =>
    have := ih h
    simp only [List.length_cons]
    omega
  | case5 read a b c d rest' n hn hh hl ih =>
    have := ih h
    simp only [List.length_cons]
    omega
  | case6 read a b c d rest' n hn hh hl ih =>
    have := ih h
    simp only [List.length_cons]
    omega
  | case7 read a b c d rest' n hn hh hl ih =>
    have := ih h
    simp only [List.length_cons]
    omega
  | case8 read e rest' hne c hc ih =>
    have := ih h
    simp only [List.length_cons]
    omega
  | case9 => simp only [reduceCtorEq] at h
  | case10 => simp only [reduceCtorEq] at h
  | case11 read c rest' _ _ _ _ ih =>
    have := ih h
    simp only [List.length_cons]
    omega

theorem length_of_readDigits {cs digits rest : List Char}
    (h : readDigits cs = some (digits, rest)) :
    rest.length < cs.length := by
  have hlen : (cs.takeWhile Char.isDigit).length + (cs.dropWhile Char.isDigit).length =
      cs.length := by
    rw [← List.length_append, List.takeWhile_append_dropWhile]
  simp only [readDigits] at h
  split at h
  · simp only [reduceCtorEq] at h
  · next hne =>
    simp only [Option.some.injEq, Prod.mk.injEq] at h
    rw [← h.2]
    have : 0 < (cs.takeWhile Char.isDigit).length := by
      simpa only [List.isEmpty_iff, List.length_pos_iff] using hne
    omega

theorem length_of_readFraction {cs rest : List Char} {f : Option (List Char)}
    (h : readFraction cs = some (f, rest)) : rest.length ≤ cs.length := by
  simp only [readFraction] at h
  split at h
  · next rest' =>
    obtain ⟨⟨digits, after⟩, hd, he⟩ := Option.map_eq_some_iff.1 h
    have := length_of_readDigits hd
    simp only [Prod.mk.injEq] at he
    rw [← he.2, List.length_cons]
    omega
  · simp only [Option.some.injEq, Prod.mk.injEq] at h
    exact Nat.le_of_eq (congrArg List.length h.2.symm)

theorem length_readMinus_le (cs : List Char) : (readMinus cs).2.length ≤ cs.length := by
  unfold readMinus
  split
  · exact Nat.le_succ _
  · exact Nat.le_refl _

theorem length_skipPlus_le (cs : List Char) : (skipPlus cs).length ≤ cs.length := by
  unfold skipPlus
  split
  · exact Nat.le_succ _
  · exact Nat.le_refl _

theorem length_of_readExponent {cs rest : List Char} {e : Option Int}
    (h : readExponent cs = some (e, rest)) : rest.length ≤ cs.length := by
  simp only [readExponent] at h
  split at h
  · next c rest' =>
    split at h
    · obtain ⟨⟨digits, after⟩, hd, he⟩ := Option.map_eq_some_iff.1 h
      have hlt := length_of_readDigits hd
      have := length_readMinus_le rest'
      have := length_skipPlus_le rest'
      simp only [Prod.mk.injEq] at he
      rw [← he.2, List.length_cons]
      split at hlt <;> omega
    · simp only [Option.some.injEq, Prod.mk.injEq] at h
      exact Nat.le_of_eq (congrArg List.length h.2.symm)
  · simp only [Option.some.injEq, Prod.mk.injEq] at h
    exact Nat.le_of_eq (congrArg List.length h.2.symm)

theorem length_of_readNumber {cs rest : List Char} {n : Option Number}
    (h : readNumber cs = some (n, rest)) : rest.length < cs.length := by
  have := length_readMinus_le cs
  simp only [readNumber, bind, Option.bind_eq_some_iff] at h
  obtain ⟨digits, hd, h⟩ := h
  have := length_of_readDigits hd
  split at h
  · simp only [reduceCtorEq] at h
  simp only [pure, Option.bind_eq_some_iff] at h
  obtain ⟨fraction, hf, exponent, he, h⟩ := h
  have := length_of_readFraction hf
  have := length_of_readExponent he
  simp only [Option.some.injEq, Prod.mk.injEq] at h
  rw [← h.2]
  omega

theorem length_of_skipSpaces {cs rest : List Char} {c : Char} (h : skipSpaces cs = c :: rest) :
    rest.length < cs.length := by
  have := length_skipSpaces_le cs
  rw [h, List.length_cons] at this
  omega

/-! ## Values -/

/-- What is left of a text behind something that has been read. -/
abbrev Behind (cs : List Char) := { rest : List Char // rest.length < cs.length }

mutual

/-- The outline at the beginning of a text. -/
def readOutline (cs : List Char) : Option (Outline × Behind cs) := do
  match hs : skipSpaces cs with
  | 'n' :: 'u' :: 'l' :: 'l' :: rest =>
    return (.null,
      ⟨rest, by have := length_of_skipSpaces hs; simp only [List.length_cons] at this; omega⟩)
  | 't' :: 'r' :: 'u' :: 'e' :: rest =>
    return (.bool true,
      ⟨rest, by have := length_of_skipSpaces hs; simp only [List.length_cons] at this; omega⟩)
  | 'f' :: 'a' :: 'l' :: 's' :: 'e' :: rest =>
    return (.bool false,
      ⟨rest, by have := length_of_skipSpaces hs; simp only [List.length_cons] at this; omega⟩)
  | '"' :: rest =>
    match hr : readString (some []) rest with
    | some (s, after) =>
      return (.string s,
        ⟨after, by have := length_of_skipSpaces hs; have := length_of_readString hr; omega⟩)
    | none => none
  | '[' :: rest =>
    have := length_of_skipSpaces hs
    match he : skipSpaces rest with
    | ']' :: after =>
      return (.array [], ⟨after, by have := length_of_skipSpaces he; omega⟩)
    | _ =>
      let (items, ⟨after, ha⟩) ← readItems rest
      return (.array items, ⟨after, by omega⟩)
  | '{' :: rest =>
    have := length_of_skipSpaces hs
    match he : skipSpaces rest with
    | '}' :: after =>
      return (.object [], ⟨after, by have := length_of_skipSpaces he; omega⟩)
    | _ =>
      let (members, ⟨after, ha⟩) ← readMembers rest
      return (.object members, ⟨after, by omega⟩)
  | rest =>
    match hr : readNumber rest with
    | some (n, after) =>
      return (.number n, ⟨after, by
        have := length_skipSpaces_le cs
        have := length_of_readNumber hr
        rw [hs] at *
        omega⟩)
    | none => none
termination_by (cs.length, 0)

/-- The items of an array up to its closing bracket, of which there is one at
least. -/
def readItems (cs : List Char) : Option (List Outline × Behind cs) := do
  let (item, ⟨rest, h⟩) ← readOutline cs
  match hs : skipSpaces rest with
  | ',' :: more =>
    have := length_of_skipSpaces hs
    let (items, ⟨after, ha⟩) ← readItems more
    return (item :: items, ⟨after, by omega⟩)
  | ']' :: after => return ([item], ⟨after, by have := length_of_skipSpaces hs; omega⟩)
  | _ => none
termination_by (cs.length, 1)

/-- The members of an object up to its closing brace, of which there is one at
least. -/
def readMembers (cs : List Char) : Option (List (Option String × Outline) × Behind cs) := do
  match hk : skipSpaces cs with
  | '"' :: rest =>
    have := length_of_skipSpaces hk
    match hr : readString (some []) rest with
    | none => none
    | some (key, rest) =>
      have := length_of_readString hr
      match hc : skipSpaces rest with
      | ':' :: rest =>
        have := length_of_skipSpaces hc
        let (value, ⟨rest, h⟩) ← readOutline rest
        match hs : skipSpaces rest with
        | ',' :: more =>
          have := length_of_skipSpaces hs
          let (members, ⟨after, ha⟩) ← readMembers more
          return ((key, value) :: members, ⟨after, by omega⟩)
        | '}' :: after =>
          return ([(key, value)], ⟨after, by have := length_of_skipSpaces hs; omega⟩)
        | _ => none
      | _ => none
  | _ => none
termination_by (cs.length, 1)

end

/-- The outline of a whole text. -/
def outline? (text : String) : Option Outline := do
  let (o, ⟨rest, _⟩) ← readOutline text.toList
  if (skipSpaces rest).isEmpty then return o else failure

end Reference

end RecordQuery
