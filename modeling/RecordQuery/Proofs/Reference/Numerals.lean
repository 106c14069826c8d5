import RecordQuery.Proofs.Number.Numeral
import RecordQuery.Reference.Format
/-!
# Numbers of JSON texts read back

The numeral of a number is read as that number (`number?_numeral`). An integer has
neither a point nor an exponent. Any other number has one of the two, and the digits it
starts with have no needless zero (`Leading`).
-/

namespace RecordQuery

/-! ## Leading digits -/

/-- The digits of a positive number start with another digit than zero. -/
theorem head?_toDigits {n : Nat} (h : 0 < n) : (toDigits n).head? ≠ some '0' := by
  induction n using Nat.strong_induction_on with
  | _ n ih =>
    rw [toDigits]
    rcases Nat.lt_or_ge n 10 with hlt | hge
    · rw [Nat.toDigits_of_lt_base hlt, List.head?_cons]
      interval_cases n <;> decide
    · have hne : Nat.toDigits 10 (n / 10) ≠ [] := Nat.toDigits_ne_nil
      rw [Nat.toDigits_of_base_le (by decide) hge, List.head?_append_of_ne_nil _ hne]
      exact ih (n / 10) (by omega) (by omega)

theorem leading_digit {c : Char} (h : c.isDigit = true) : Leading [c] :=
  ⟨List.cons_ne_nil _ _, List.forall_mem_singleton.2 h, fun _ => Nat.le_refl _⟩

/-- Any part of the digits of a positive number that starts where they do, and
whatever digits come behind it. -/
theorem leading_of_start {n : Nat} {w : List Char} (hn : 0 < n) (hne : w ≠ [])
    (h : w <+: toDigits n) {ds : List Char} (hds : Digits ds) : Leading (w ++ ds) := by
  obtain ⟨c, w, rfl⟩ := List.exists_cons_of_ne_nil hne
  refine ⟨List.cons_ne_nil _ _, Digits.append ?_ hds, fun hz => absurd ?_ (head?_toDigits hn)⟩
  · exact fun d hd => digits_toDigits n d (h.subset hd)
  · obtain ⟨more, hmore⟩ := h
    rw [← hmore]
    exact hz

theorem leading_toDigits (n : Nat) : Leading (toDigits n) := by
  rcases Nat.eq_zero_or_pos n with rfl | hn
  · exact leading_digit (by decide)
  · rw [← List.append_nil (toDigits n)]
    exact leading_of_start hn Nat.toDigits_ne_nil (List.prefix_refl _)
      fun _ hc => absurd hc List.not_mem_nil

/-! ## The parts of a numeral -/

/-- The text of a power of ten, as it is written with its sign. -/
def exponentChars : Option Int → List Char
  | none => []
  | some e => 'e' :: ((if 0 ≤ e then ['+'] else []) ++ (integerText e).toList)

theorem exponent_exponentChars (e : Option Int) : Json.Exponent (exponentChars e) e := by
  cases e with
  | none => exact .none
  | some e =>
    have hne : toDigits e.natAbs ≠ [] := Nat.toDigits_ne_nil
    have hdigits := digits_toDigits e.natAbs
    have hvalue := ofDigits_toDigits e.natAbs
    rw [exponentChars, toList_integerText]
    rcases lt_or_ge e 0 with he | he
    · have hminus : Json.Exponent ('e' :: '-' :: toDigits e.natAbs) _ :=
        .minus (.inl rfl) hne hdigits
      rw [hvalue, show -(e.natAbs : Int) = e by omega] at hminus
      rw [if_neg (by omega), if_pos he]
      exact hminus
    · have hplus : Json.Exponent ('e' :: '+' :: toDigits e.natAbs) _ :=
        .plus (.inl rfl) hne hdigits
      rw [hvalue, show (e.natAbs : Int) = e by omega] at hplus
      rw [if_pos he, if_neg (by omega)]
      exact hplus

namespace Layout

variable {l : Layout}

/-- The digits of a number are written out in place, or with an exponent. -/
theorem magnitude_cases (l : Layout) (x : Binary64) :
    let d := x.toDecimal l.tie
    l.magnitude x = l.placeDigits (toDigits d.coefficient) d.exponent ∨
      l.magnitude x = l.withExponent (toDigits d.coefficient) d.scientificExponent :=
  ite_eq_or_eq _ _ _

/-- A number that is written out in place has a point. -/
theorem placeDigits_mantissa (hl : l.fraction = true) {n : Nat} {e : Int}
    (hzero : n = 0 → e = 0) :
    ∃ w f, Mantissa (l.placeDigits (toDigits n) e) w (some f) ∧
      (Decimal.ofParts w f 0).value = Decimal.value ⟨n, e⟩ := by
  rcases le_or_gt 0 e with he | he
  · obtain ⟨k, rfl⟩ := Int.eq_ofNat_of_zero_le he
    have hleading : Leading (toDigits n ++ List.replicate k '0') := by
      rcases Nat.eq_zero_or_pos n with rfl | hn
      · obtain rfl : k = 0 := Int.ofNat_eq_zero.1 (hzero rfl)
        exact leading_digit (by decide)
      · exact leading_of_start hn Nat.toDigits_ne_nil (List.prefix_refl _) (digits_replicate_zero k)
    rw [placeDigits_natCast, if_pos hl]
    refine ⟨_, ['0'], .pointed hleading (List.cons_ne_nil _ _) (digits_replicate_zero 1), ?_⟩
    rw [Decimal.value_pointZero, ofDigits_zeros, Decimal.value_ofNat]
  · obtain ⟨k, hk⟩ := Int.eq_ofNat_of_zero_le (Int.neg_nonneg_of_nonpos he.le)
    obtain rfl : e = -(k : Int) := by omega
    have hn : 0 < n := Nat.pos_of_ne_zero fun h => by have := hzero h; omega
    obtain ⟨w, f, htext, hw, hf, hlength, hvalue⟩ := l.placeDigits_neg n k (by omega)
    have hleading : Leading w := by
      rcases hw with rfl | ⟨hne, hstart⟩
      · exact leading_digit (by decide)
      · rw [← List.append_nil w]
        exact leading_of_start hn hne hstart fun _ hc => absurd hc List.not_mem_nil
    rw [htext]
    refine ⟨w, f, .pointed hleading ?_ hf, hvalue⟩
    rw [← List.length_pos_iff]
    omega

/-- A number with an exponent has a point if it has more digits than one. -/
theorem withExponent_mantissa (hl : l.plus = true) (n : Nat) (e : Int) :
    ∃ cs w f, Mantissa cs w f ∧
      l.withExponent (toDigits n) (Decimal.scientificExponent ⟨n, e⟩) =
        cs ++ exponentChars (some (Decimal.scientificExponent ⟨n, e⟩)) ∧
      Decimal.ofParts w (f.getD []) (Decimal.scientificExponent ⟨n, e⟩) = ⟨n, e⟩ := by
  have hdigits := digits_toDigits n
  have hvalue := ofDigits_toDigits n
  rw [Decimal.scientificExponent]
  cases hds : toDigits n with
  | nil => exact absurd hds Nat.toDigits_ne_nil
  | cons c rest =>
    rw [hds] at hdigits hvalue
    have hc : Leading [c] := leading_digit (hdigits c List.mem_cons_self)
    cases rest with
    | nil =>
      refine ⟨[c], [c], none, .whole hc, ?_, ?_⟩
      · simp [withExponent, hl, exponentChars]
      · simp [Decimal.ofParts, hvalue]
    | cons d rest =>
      refine ⟨[c] ++ '.' :: d :: rest, [c], some (d :: rest), .pointed hc (List.cons_ne_nil _ _) ?_,
        ?_, ?_⟩
      · exact fun a ha => hdigits a (List.mem_cons_of_mem c ha)
      · simp [withExponent, hl, exponentChars]
      · simp only [Decimal.ofParts, Option.getD_some, List.singleton_append, hvalue,
          List.length_cons]
        congr 1
        push_cast
        ring

end Layout

/-- No decimal with a zero for its coefficient is read as another number. -/
theorem Binary64.exponent_of_coefficient {x : Binary64} (hx : x.isFinite = true) (tie : Tie)
    (h : (x.toDecimal tie).coefficient = 0) : (x.toDecimal tie).exponent = 0 := by
  have hread := toBinary64_toDecimal hx tie
  rw [Decimal.toBinary64, if_pos h] at hread
  have hcode : x.code = 0 := by rw [← hread]; rfl
  rw [toDecimal, if_pos hcode]

namespace Reference

open Json

/-! ## Reading the parts -/

/-- Whether a text can go on with a number that it stands behind. -/
def continuesNumber (c : Char) : Bool := c.isDigit || c == '.' || c == 'e' || c == 'E'

/-- A text that a number ends in front of. -/
def EndsNumber (rest : List Char) : Prop := ∀ c ∈ rest.head?, continuesNumber c = false

variable {w f cs ds rest more : List Char} {fraction : Option (List Char)} {e : Option Int}

theorem endsNumber_nil : EndsNumber [] := nofun

theorem EndsNumber.not_isDigit (h : EndsNumber rest) : ∀ c ∈ rest.head?, c.isDigit = false := by
  intro c hc
  have := h c hc
  simp only [continuesNumber, Bool.or_eq_false_iff] at this
  exact this.1.1.1

theorem readDigits_append (hne : w ≠ []) (hw : Digits w)
    (hm : ∀ c ∈ more.head?, c.isDigit = false) : readDigits (w ++ more) = some (w, more) := by
  have hempty : w.isEmpty = false := List.isEmpty_eq_false_iff.2 hne
  simp only [readDigits, hw.takeWhile_append hm, hw.dropWhile_append hm, hempty, Bool.false_eq_true,
    if_false]

/-- The digits of a mantissa are read as such. -/
theorem readDigits_mantissa (h : Mantissa cs w fraction)
    (hm : ∀ c ∈ more.head?, c.isDigit = false ∧ c ≠ '.') :
    ∃ behind, readDigits (cs ++ more) = some (w, behind) ∧
      readFraction behind = some (fraction, more) := by
  have hdigit : ∀ c ∈ more.head?, c.isDigit = false := fun c hc => (hm c hc).1
  cases h with
  | whole hw =>
    refine ⟨more, readDigits_append hw.ne_nil hw.digits hdigit, ?_⟩
    rw [readFraction]
    rintro after rfl
    exact (hm '.' rfl).2 rfl
  | @pointed w f hw hne hf =>
    refine ⟨'.' :: (f ++ more), ?_, ?_⟩
    · rw [List.append_assoc, List.cons_append]
      refine readDigits_append hw.ne_nil hw.digits fun c hc => ?_
      obtain rfl : '.' = c := Option.some.inj hc
      decide
    · rw [readFraction, readDigits_append hne hf hdigit]
      rfl

/-- A run of digits starts with neither a minus nor a plus. -/
theorem readMinus_digits (hne : w ≠ []) (hw : Digits w) :
    readMinus (w ++ more) = (false, w ++ more) := by
  obtain ⟨c, w, rfl⟩ := List.exists_cons_of_ne_nil hne
  have hc := hw c List.mem_cons_self
  rw [List.cons_append, readMinus]
  intro after h
  obtain ⟨rfl, -⟩ := List.cons.inj h
  exact absurd hc (by decide)

theorem skipPlus_digits (hne : w ≠ []) (hw : Digits w) : skipPlus (w ++ more) = w ++ more := by
  obtain ⟨c, w, rfl⟩ := List.exists_cons_of_ne_nil hne
  have hc := hw c List.mem_cons_self
  rw [List.cons_append, skipPlus]
  intro after h
  obtain ⟨rfl, -⟩ := List.cons.inj h
  exact absurd hc (by decide)

/-- The digits of a mantissa end in front of an exponent, or where the number ends. -/
theorem head?_exponent (h : Exponent ds e) (hr : EndsNumber rest) :
    ∀ c ∈ (ds ++ rest).head?, c.isDigit = false ∧ c ≠ '.' := by
  have hletter {c d : Char} {w : List Char} (hc : c = 'e' ∨ c = 'E') (hd : d ∈ (c :: w).head?) :
      d.isDigit = false ∧ d ≠ '.' := by
    obtain rfl : c = d := Option.some.inj hd
    rcases hc with rfl | rfl <;> decide
  cases h with
  | none =>
    intro c hc
    have := hr c hc
    simp only [continuesNumber, Bool.or_eq_false_iff, beq_eq_false_iff_ne] at this
    exact ⟨this.1.1.1, this.1.1.2⟩
  | unsigned hc _ _ => exact fun d hd => hletter hc hd
  | plus hc _ _ => exact fun d hd => hletter hc hd
  | minus hc _ _ => exact fun d hd => hletter hc hd

/-- **An exponent is read with its sign**, or none where the number ends. -/
theorem readExponent_append (h : Exponent ds e) (hr : EndsNumber rest) :
    readExponent (ds ++ rest) = some (e, rest) := by
  cases h with
  | none =>
    cases rest with
    | nil => rfl
    | cons c rest =>
      have := hr c rfl
      simp only [continuesNumber, Bool.or_eq_false_iff, beq_eq_false_iff_ne] at this
      rw [List.nil_append, readExponent, if_neg (not_or.2 ⟨this.1.2, this.2⟩)]
  | unsigned hc hne hw =>
    rw [List.cons_append, readExponent, if_pos hc]
    simp only [readMinus_digits hne hw, Bool.false_eq_true, if_false, skipPlus_digits hne hw,
      readDigits_append hne hw hr.not_isDigit, Option.map_some]
  | @plus c w hc hne hw =>
    have hminus : readMinus ('+' :: (w ++ rest)) = (false, '+' :: (w ++ rest)) := rfl
    rw [List.cons_append, List.cons_append, readExponent, if_pos hc]
    simp only [hminus, Bool.false_eq_true, if_false, skipPlus,
      readDigits_append hne hw hr.not_isDigit, Option.map_some]
  | minus hc hne hw =>
    rw [List.cons_append, List.cons_append, readExponent, if_pos hc]
    simp only [readMinus, if_true, readDigits_append hne hw hr.not_isDigit, Option.map_some]

/-- **A number is read by its parts.** -/
theorem readNumber_parts (negative : Bool) (h : Mantissa cs w fraction) (he : Exponent ds e)
    (hr : EndsNumber rest) :
    readNumber (signText negative ++ (cs ++ ds) ++ rest) =
      some (numberOfParts? negative w fraction e, rest) := by
  have hminus : readMinus (signText negative ++ (cs ++ (ds ++ rest))) =
      (negative, cs ++ (ds ++ rest)) := by
    cases negative with
    | true => rfl
    | false =>
      rw [signText, if_neg Bool.false_ne_true, List.nil_append]
      cases h with
      | whole hw => exact readMinus_digits hw.ne_nil hw.digits
      | pointed hw _ _ =>
        rw [List.append_assoc]
        exact readMinus_digits hw.ne_nil hw.digits
  have hneeded : ¬ (1 < w.length ∧ w.head? = some '0') := by
    have hw : Leading w := by cases h <;> assumption
    rintro ⟨hlength, hzero⟩
    have := hw.needed hzero
    omega
  obtain ⟨behind, hwhole, hfraction⟩ := readDigits_mantissa h (head?_exponent he hr)
  rw [List.append_assoc, List.append_assoc]
  simp only [readNumber, hminus, hwhole, bind, Option.bind_some, if_neg hneeded, hfraction,
    readExponent_append he hr, pure]

/-- The number in a numeral is the one with its parts. -/
theorem number?_parts (negative : Bool) (h : Mantissa cs w fraction) (he : Exponent ds e) :
    number? (signText negative ++ (cs ++ ds)) = numberOfParts? negative w fraction e := by
  have hread := readNumber_parts negative h he endsNumber_nil
  rw [List.append_nil] at hread
  rw [number?, hread]
  rfl

/-- **A numeral is read up to its end**, as the number that it is read as alone. -/
theorem readNumber_numeral (h : IsNumeral cs) (hr : EndsNumber rest) :
    readNumber (cs ++ rest) = some (number? cs, rest) := by
  obtain ⟨negative, hm, he⟩ := h
  rw [readNumber_parts negative hm he hr, number?_parts negative hm he]

/-! ## Numbers -/

/-- An integer is written with its digits alone. -/
theorem numberOfParts?_integer (n : Int) (fits : FitsWord n) :
    numberOfParts? (n < 0) (toDigits n.natAbs) none none = some (.integer n fits) := by
  have hsign : (if decide (n < 0) = true then -(n.natAbs : Int) else n.natAbs) = n := by
    split <;> simp only [decide_eq_true_eq] at * <;> omega
  have hzero : ¬ (decide (n < 0) = true ∧ n.natAbs = 0) := by
    rw [decide_eq_true_eq]
    omega
  rw [numberOfParts?, ofDigits_toDigits, if_pos ⟨rfl, rfl, hzero⟩]
  simp only [hsign, Number.ofInt?, dif_pos fits]

/-- Any other number with a point or an exponent, from which it is read back. -/
theorem exists_floatParts (x : Binary64) (hx : x.isFinite = true) :
    ∃ cs w f e, Mantissa cs w f ∧ numberLayout.magnitude x = cs ++ exponentChars e ∧
      numberOfParts? x.negative w f e = some (.float x hx) := by
  have hread := Binary64.toBinary64_toDecimal hx numberLayout.tie
  have hfloat : Number.ofBinary64? x = some (.float x hx) := dif_pos hx
  rcases numberLayout.magnitude_cases x with hplace | hscale
  · obtain ⟨w, f, hmantissa, hvalue⟩ := Layout.placeDigits_mantissa (l := numberLayout) rfl
      (Binary64.exponent_of_coefficient hx numberLayout.tie)
    refine ⟨_, w, some f, none, hmantissa, hplace.trans (List.append_nil _).symm, ?_⟩
    rw [numberOfParts?, if_neg (fun h => absurd h.1 (by simp)), Option.getD_some, Option.getD_none,
      Decimal.toBinary64_congr _ hvalue, hread, hfloat]
  · obtain ⟨cs, w, f, hmantissa, htext, hdecimal⟩ :=
      Layout.withExponent_mantissa (l := numberLayout) rfl
        (x.toDecimal numberLayout.tie).coefficient (x.toDecimal numberLayout.tie).exponent
    refine ⟨cs, w, f, some _, hmantissa, hscale.trans htext, ?_⟩
    rw [numberOfParts?, if_neg (fun h => absurd h.2.1 (by simp)), Option.getD_some, hdecimal, hread,
      hfloat]

/-- The parts of a number's numeral. -/
theorem exists_numeralParts (n : Number) :
    ∃ negative cs w f e, Mantissa cs w f ∧
      numeral n = signText negative ++ (cs ++ exponentChars e) ∧
      numberOfParts? negative w f e = some n := by
  cases n with
  | integer n fits =>
    refine ⟨n < 0, toDigits n.natAbs, _, none, none, .whole (leading_toDigits _), ?_,
      numberOfParts?_integer n fits⟩
    rw [numeral, toList_integerText, exponentChars, List.append_nil, signText]
    simp only [decide_eq_true_eq]
  | float x hx =>
    obtain ⟨cs, w, f, e, hmantissa, htext, hparts⟩ := exists_floatParts x hx
    refine ⟨x.negative, cs, w, f, e, hmantissa, ?_, hparts⟩
    rw [numeral, numberLayout.toList_text hx, htext, signText]

theorem isNumeral_numeral (n : Number) : IsNumeral (numeral n) := by
  obtain ⟨negative, cs, w, f, e, hmantissa, htext, -⟩ := exists_numeralParts n
  exact htext ▸ .intro negative hmantissa (exponent_exponentChars e)

/-- **A number is found again in its numeral.** -/
theorem number?_numeral (n : Number) : number? (numeral n) = some n := by
  obtain ⟨negative, cs, w, f, e, hmantissa, htext, hparts⟩ := exists_numeralParts n
  rw [htext, number?_parts negative hmantissa (exponent_exponentChars e), hparts]

end Reference

end RecordQuery
