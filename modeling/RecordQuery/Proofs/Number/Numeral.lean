import Mathlib.Data.List.TakeWhile
import RecordQuery.Proofs.Number.Decimal
/-!
# Numerals

A numeral is a run of digits, with at most one point behind the first of them
(`Numeral`). The digits of a decimal that are written out in place are a
numeral of the same value (`Layout.placeDigits_numeral`), so a finite number is
read back from its text wherever numerals are read (`Layout.magnitude_numeral`).
-/

namespace RecordQuery

/-! ## Runs -/

section Runs

variable {p : Char → Bool} {cs more : List Char}

/-- A run ends before what does not belong to it. -/
theorem takeWhile_before (h : ∀ c ∈ more.head?, p c = false) :
    (cs ++ more).takeWhile p = cs.takeWhile p := by
  induction cs with
  | nil =>
    cases more with
    | nil => rfl
    | cons c more => exact List.takeWhile_cons_of_neg (Bool.eq_false_iff.1 (h c rfl))
  | cons d cs ih => rw [List.cons_append, List.takeWhile_cons, List.takeWhile_cons, ih]

/-- What a run ends before is left behind it. -/
theorem dropWhile_before (h : ∀ c ∈ more.head?, p c = false) :
    (cs ++ more).dropWhile p = cs.dropWhile p ++ more := by
  induction cs with
  | nil =>
    cases more with
    | nil => rfl
    | cons c more => exact List.dropWhile_cons_of_neg (Bool.eq_false_iff.1 (h c rfl))
  | cons d cs ih =>
    rw [List.cons_append, List.dropWhile_cons, List.dropWhile_cons, ih]
    split
    · rfl
    · rfl

end Runs

/-! ## Runs of digits -/

theorem Digits.append {cs ds : List Char} (hc : Digits cs) (hd : Digits ds) : Digits (cs ++ ds) :=
  List.forall_mem_append.2 ⟨hc, hd⟩

theorem digits_replicate_zero (k : Nat) : Digits (List.replicate k '0') := by
  intro c hc
  rw [List.eq_of_mem_replicate hc]
  decide

theorem digits_toDigits (n : Nat) : Digits (toDigits n) :=
  fun _ hc => Nat.isDigit_of_mem_toDigits (by decide) (by decide) hc

theorem toList_integerText (n : Int) :
    (integerText n).toList = (if n < 0 then ['-'] else []) ++ toDigits n.natAbs := by
  rw [integerText, String.toList_append, String.toList_ofList]
  split <;> rfl

/-- A run of digits stops where a text goes on with something else. -/
theorem Digits.takeWhile_append {cs more : List Char} (h : Digits cs)
    (hm : ∀ c ∈ more.head?, c.isDigit = false) : (cs ++ more).takeWhile Char.isDigit = cs := by
  rw [takeWhile_before hm, List.takeWhile_eq_self_iff.2 h]

theorem Digits.dropWhile_append {cs more : List Char} (h : Digits cs)
    (hm : ∀ c ∈ more.head?, c.isDigit = false) : (cs ++ more).dropWhile Char.isDigit = more := by
  rw [dropWhile_before hm, List.dropWhile_eq_nil_iff.2 h, List.nil_append]

theorem ofDigits_append (cs ds : List Char) :
    ofDigits (cs ++ ds) = ofDigits cs * 10 ^ ds.length + ofDigits ds := by
  have h := @Nat.ofDigitChars_eq_ofDigitChars_zero ds (Nat.ofDigitChars 10 cs 0)
  rw [← Nat.ofDigitChars_append, Nat.mul_comm] at h
  exact h

theorem ofDigits_replicate_zero (k : Nat) : ofDigits (List.replicate k '0') = 0 :=
  Nat.ofDigitChars_replicate_zero.trans (Nat.mul_zero _)

theorem ofDigits_toDigits (n : Nat) : ofDigits (toDigits n) = n := Nat.ofDigitChars_ten_toDigits

/-! ## Numerals and their decimals -/

/-- The texts that numbers are written as without a sign and an exponent, with
the decimals they stand for. -/
inductive Numeral : List Char → Decimal → Prop
  | whole {w : List Char} (hne : w ≠ []) (hw : Digits w) : Numeral w (.ofParts w [] 0)
  | point {w f : List Char} (hne : w ≠ []) (hw : Digits w) (hf : Digits f) :
      Numeral (w ++ '.' :: f) (.ofParts w f 0)

/-- A numeral starts with a digit. -/
theorem Numeral.exists_cons {cs : List Char} {d : Decimal} (h : Numeral cs d) :
    ∃ c ds, cs = c :: ds ∧ c.isDigit = true := by
  have hdigit {w more : List Char} (hne : w ≠ []) (hw : Digits w) :
      ∃ c ds, w ++ more = c :: ds ∧ c.isDigit = true := by
    obtain ⟨c, w, rfl⟩ := List.exists_cons_of_ne_nil hne
    exact ⟨c, w ++ more, rfl, hw c List.mem_cons_self⟩
  cases h with
  | whole hne hw => exact List.append_nil cs ▸ hdigit hne hw
  | point hne hw hf => exact hdigit hne hw

theorem Decimal.value_ofParts (w f : List Char) :
    (Decimal.ofParts w f 0).value = ofDigits (w ++ f) * (10 : Rat) ^ (-(f.length : Int)) := by
  rw [ofParts, value, Int.zero_sub]

theorem Decimal.value_ofNat (n k : Nat) :
    Decimal.value ⟨n, k⟩ = ((n * 10 ^ k : Nat) : Rat) := by
  rw [value, zpow_natCast]
  push_cast
  rfl

/-- Zeros behind the digits of a number count as powers of ten. -/
theorem ofDigits_zeros (n k : Nat) :
    ofDigits (toDigits n ++ List.replicate k '0') = n * 10 ^ k := by
  rw [ofDigits_append, ofDigits_toDigits, List.length_replicate, ofDigits_replicate_zero,
    Nat.add_zero]

/-- A zero behind the point counts for nothing. -/
theorem Decimal.value_pointZero (w : List Char) :
    (Decimal.ofParts w ['0'] 0).value = ofDigits w := by
  have hzero : ofDigits ['0'] = 0 := ofDigits_replicate_zero 1
  rw [Decimal.value_ofParts, ofDigits_append, hzero, List.length_singleton]
  push_cast
  ring

namespace Layout

/-- A decimal without places is written with the zeros it ends in, and with a
point if the layout has one everywhere. -/
theorem placeDigits_natCast (l : Layout) (n k : Nat) :
    l.placeDigits (toDigits n) k =
      toDigits n ++ List.replicate k '0' ++ if l.fraction then ['.', '0'] else [] := by
  rw [placeDigits, if_pos (Int.natCast_nonneg k), Int.toNat_natCast]

/-- One with places gets its point, behind a zero where it has more places
than digits. -/
theorem placeDigits_neg (l : Layout) (n k : Nat) (hk : 0 < k) :
    ∃ w f, l.placeDigits (toDigits n) (-k) = w ++ '.' :: f ∧
      (w = ['0'] ∨ w ≠ [] ∧ w <+: toDigits n) ∧ Digits f ∧ f.length = k ∧
      (Decimal.ofParts w f 0).value = Decimal.value ⟨n, -k⟩ := by
  have hdigits := digits_toDigits n
  rw [placeDigits, if_neg (by omega), neg_neg, Int.toNat_natCast]
  by_cases hlen : k < (toDigits n).length
  · -- the point falls among the digits
    have hplaces : ((toDigits n).drop ((toDigits n).length - k)).length = k := by
      rw [List.length_drop, Nat.sub_sub_self hlen.le]
    rw [if_pos hlen]
    refine ⟨_, _, rfl, .inr ⟨?_, List.take_prefix _ _⟩, ?_, hplaces, ?_⟩
    · rw [← List.length_pos_iff, List.length_take]
      omega
    · exact fun c hc => hdigits c (List.mem_of_mem_drop hc)
    · rw [Decimal.value_ofParts, hplaces, List.take_append_drop, ofDigits_toDigits, Decimal.value]
  · -- or in front of them all, with zeros up to the first
    have hplaces : (List.replicate (k - (toDigits n).length) '0' ++ toDigits n).length = k := by
      rw [List.length_append, List.length_replicate, Nat.sub_add_cancel (Nat.le_of_not_lt hlen)]
    rw [if_neg hlen]
    refine ⟨['0'], _, rfl, .inl rfl, (digits_replicate_zero _).append hdigits, hplaces, ?_⟩
    have hzero : ofDigits ['0'] = 0 := ofDigits_replicate_zero 1
    rw [Decimal.value_ofParts, hplaces, ofDigits_append, ofDigits_append, ofDigits_toDigits, hzero,
      ofDigits_replicate_zero, Nat.zero_mul, Nat.zero_mul, Nat.zero_add, Nat.zero_add,
      Decimal.value]

/-- **Digits written out in place keep the value.** -/
theorem placeDigits_numeral (l : Layout) (n : Nat) (e : Int) :
    ∃ d, Numeral (l.placeDigits (toDigits n) e) d ∧ d.value = Decimal.value ⟨n, e⟩ := by
  rcases le_or_gt 0 e with he | he
  · obtain ⟨k, rfl⟩ := Int.eq_ofNat_of_zero_le he
    have hw : Digits (toDigits n ++ List.replicate k '0') :=
      (digits_toDigits n).append (digits_replicate_zero k)
    have hne : toDigits n ++ List.replicate k '0' ≠ [] :=
      List.append_ne_nil_of_left_ne_nil Nat.toDigits_ne_nil _
    rw [placeDigits_natCast]
    by_cases hf : l.fraction = true
    · rw [if_pos hf]
      refine ⟨_, .point hne hw (digits_replicate_zero 1), ?_⟩
      rw [Decimal.value_pointZero, ofDigits_zeros, Decimal.value_ofNat]
    · rw [if_neg hf, List.append_nil]
      refine ⟨_, .whole hne hw, ?_⟩
      rw [Decimal.value_ofParts, List.append_nil, ofDigits_zeros, Decimal.value_ofNat,
        List.length_nil, Int.natCast_zero, neg_zero, zpow_zero, mul_one]
  · obtain ⟨k, hk⟩ := Int.eq_ofNat_of_zero_le (Int.neg_nonneg_of_nonpos he.le)
    obtain rfl : e = -(k : Int) := by omega
    obtain ⟨w, f, htext, hw, hf, -, hvalue⟩ := l.placeDigits_neg n k (by omega)
    rw [htext]
    refine ⟨_, .point ?_ ?_ hf, hvalue⟩
    · rcases hw with rfl | ⟨hne, -⟩
      · exact List.cons_ne_nil _ _
      · exact hne
    · rcases hw with rfl | ⟨-, hstart⟩
      · exact digits_replicate_zero 1
      · exact fun c hc => digits_toDigits n c (hstart.subset hc)

/-- The text of a finite number is its magnitude behind its sign. -/
theorem toList_text (l : Layout) {x : Binary64} (hx : x.isFinite = true) :
    (l.text x).toList = (if x.negative then ['-'] else []) ++ l.magnitude x := by
  have hnan : ¬ x.isNaN = true := by
    simp only [Binary64.isFinite, Binary64.isNaN, decide_eq_true_eq] at hx ⊢
    omega
  rw [Layout.text, if_neg hnan, if_pos hx, String.toList_append, String.toList_ofList]
  cases x.negative <;> rfl

/-- The magnitude of a finite number, where it has no exponent, is a numeral that
reads back as the number. -/
theorem magnitude_numeral {l : Layout} (hl : l.inPlace = none) {x : Binary64}
    (hx : x.isFinite = true) :
    ∃ d, Numeral (l.magnitude x) d ∧ d.toBinary64 x.negative = x := by
  obtain ⟨d, hd, hvalue⟩ :=
    l.placeDigits_numeral (x.toDecimal l.tie).coefficient (x.toDecimal l.tie).exponent
  refine ⟨d, ?_, ?_⟩
  · simp only [magnitude, hl, if_true]
    exact hd
  · rw [Decimal.toBinary64_congr _ hvalue]
    exact Binary64.toBinary64_toDecimal hx l.tie

end Layout

end RecordQuery
