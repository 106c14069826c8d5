import RecordQuery.Number.Decimal
import RecordQuery.Proofs.Number.Rounding
/-!
# Decimals read back

Reading a decimal depends on its value alone (`Decimal.toBinary64_congr`),
although decimals far out of range are read without computing a quotient. So a
decimal may be stripped of its zeros, or have them written out, and is read as
before. The decimal that `Binary64.toDecimal` finds is one that reads back as
the number: on every grid that is tried this has been tested, and the exact
decimal behind the last grid reads back because it is exact.
-/

namespace RecordQuery

namespace Decimal

/-- The number that a decimal stands for. -/
def value (d : Decimal) : Rat := d.coefficient * 10 ^ d.exponent

theorem denominator_pos (d : Decimal) : 0 < d.denominator := Nat.pow_pos (by decide)

theorem numerator_div_denominator (d : Decimal) :
    (d.numerator : Rat) / d.denominator = d.value := by
  have h : (10 : Rat) ^ d.exponent = _ := zpow_eq_div 10 d.exponent
  simp only [numerator, denominator, value, h, Nat.pow_eq]
  push_cast
  ring

/-! ## Out of range -/

/-- Four hundred digits are more than a thousand bits. -/
theorem two_pow_le_ten_pow : (2 : Rat) ^ 1075 ≤ 10 ^ 400 :=
  calc (2 : Rat) ^ 1075 ≤ 2 ^ (3 * 400) := pow_le_pow_right₀ (by norm_num) (by norm_num)
    _ = (2 ^ 3) ^ 400 := pow_mul _ _ _
    _ ≤ 10 ^ 400 := pow_le_pow_left₀ (by norm_num) (by norm_num) _

theorem two_zpow_le_value {d : Decimal} (hc : d.coefficient ≠ 0) (he : 400 < d.exponent) :
    (2 : Rat) ^ (1024 : Int) ≤ d.value := by
  have hone : (1 : Rat) ≤ d.coefficient := by exact_mod_cast Nat.one_le_iff_ne_zero.2 hc
  calc (2 : Rat) ^ (1024 : Int)
      ≤ 2 ^ (1075 : Int) := zpow_le_zpow_right₀ (by norm_num) (by norm_num)
    _ ≤ 10 ^ (400 : Int) := by exact_mod_cast two_pow_le_ten_pow
    _ ≤ 10 ^ d.exponent := zpow_le_zpow_right₀ (by norm_num) he.le
    _ ≤ d.coefficient * 10 ^ d.exponent := le_mul_of_one_le_left (by positivity) hone

theorem value_lt_two_zpow {d : Decimal}
    (he : d.exponent + (d.coefficient.log2 : Int) + 1 < -400) :
    d.value < (2 : Rat) ^ (-1075 : Int) := by
  have hc : (d.coefficient : Rat) < 2 ^ (d.coefficient.log2 + 1) := by
    exact_mod_cast Nat.lt_log2_self
  have hten : (2 : Rat) ^ (d.coefficient.log2 + 1) ≤ 10 ^ (d.coefficient.log2 + 1) :=
    pow_le_pow_left₀ (by norm_num) (by norm_num) _
  calc d.value < 10 ^ (d.coefficient.log2 + 1) * 10 ^ d.exponent := by
        rw [value]
        gcongr
        exact lt_of_lt_of_le hc hten
    _ = 10 ^ (d.exponent + (d.coefficient.log2 : Int) + 1) := by
        rw [← zpow_natCast, ← zpow_add₀ (by norm_num)]
        congr 1
        push_cast
        ring
    _ ≤ 10 ^ (-400 : Int) := zpow_le_zpow_right₀ (by norm_num) he.le
    _ ≤ 2 ^ (-1075 : Int) := by
        rw [zpow_neg, zpow_neg]
        exact inv_anti₀ (by positivity) (by exact_mod_cast two_pow_le_ten_pow)

/-! ## Reading -/

/-- The decimals that are settled without a quotient are read as if it were
computed. -/
theorem toBinary64_eq_ofQuotient (negative : Bool) (d : Decimal) :
    d.toBinary64 negative = .ofQuotient negative d.numerator d.denominator := by
  rw [toBinary64, Binary64.ofQuotient]
  split
  · next h => rw [numerator, h, Nat.zero_mul, Width.roundCode, if_pos rfl]
  · next hc =>
    split
    · next h =>
      rw [Width.roundCode_of_ge d.denominator_pos, Binary64.infinity]
      exact d.numerator_div_denominator ▸ two_zpow_le_value hc h
    · split
      · next h =>
        rw [Width.roundCode_of_lt d.denominator_pos]
        exact d.numerator_div_denominator ▸ value_lt_two_zpow h
      · rfl

/-- **Decimals of one value are read as one number.** -/
theorem toBinary64_congr (negative : Bool) {d e : Decimal} (h : d.value = e.value) :
    d.toBinary64 negative = e.toBinary64 negative := by
  have hd : (d.denominator : Rat) ≠ 0 := by exact_mod_cast d.denominator_pos.ne'
  have he : (e.denominator : Rat) ≠ 0 := by exact_mod_cast e.denominator_pos.ne'
  rw [toBinary64_eq_ofQuotient, toBinary64_eq_ofQuotient, Binary64.ofQuotient,
    Binary64.ofQuotient, Width.roundCode_congr _ d.denominator_pos e.denominator_pos]
  rw [← numerator_div_denominator, ← numerator_div_denominator, div_eq_div_iff hd he] at h
  exact_mod_cast h

/-- Stripping zeros keeps the value. -/
theorem value_strip (d : Decimal) : d.strip.value = d.value := by
  fun_induction strip d with
  | case1 d h ih =>
    have hten : d.coefficient / 10 * 10 = d.coefficient := by omega
    have hcast : ((d.coefficient / 10 : Nat) : Rat) * 10 = d.coefficient := by
      exact_mod_cast hten
    rw [ih, value, value, zpow_add₀ (by norm_num), ← hcast]
    ring
  | case2 d h => rfl

end Decimal

namespace Binary64

/-! ## What is written reads back -/

theorem denominator_pos (x : Binary64) : 0 < x.denominator := Nat.pow_pos (by decide)

theorem numerator_div_denominator (x : Binary64) :
    (x.numerator : Rat) / x.denominator = x.significand * 2 ^ x.unit := by
  have h : (2 : Rat) ^ x.unit = _ := zpow_eq_div 2 x.unit
  simp only [numerator, denominator, h, Nat.pow_eq]
  push_cast
  ring

/-- A finite number is the rounding of its own value. -/
theorem ofQuotient_exact {x : Binary64} (hx : x.isFinite = true) {n d : Nat} (hd : 0 < d)
    (h : (n : Rat) / d = x.significand * 2 ^ x.unit) : ofQuotient x.negative n d = x := by
  have hcode : x.code < Width.double.infinity := of_decide_eq_true hx
  obtain ⟨negative, code, hlt⟩ := x
  rw [ofQuotient, Width.roundCode_exact _ (by decide) hd hcode h]
  simp only [ofCode, mk.injEq, true_and]
  exact Nat.min_eq_left hcode.le

/-- The exact decimal of a finite number reads back. -/
theorem toBinary64_exactDecimal {x : Binary64} (hx : x.isFinite = true) :
    x.exactDecimal.toBinary64 x.negative = x := by
  rw [Decimal.toBinary64_eq_ofQuotient]
  refine ofQuotient_exact hx (Decimal.denominator_pos _) ?_
  rw [Decimal.numerator_div_denominator, exactDecimal]
  split
  · next h =>
    have hden : x.denominator = 1 := by
      rw [denominator, show (-x.unit).toNat = 0 by omega, Nat.pow_eq, Nat.pow_zero]
    rw [← numerator_div_denominator, hden, Decimal.value]
    simp
  · next h =>
    -- a half is five tenths, so `k` halvings are `k` fives and `k` places
    obtain ⟨k, hk⟩ : ∃ k : Nat, x.unit = -(k : Int) := ⟨(-x.unit).toNat, by omega⟩
    have hten : (10 : Rat) = 2 * 5 := by norm_num
    simp only [Decimal.value, hk, neg_neg, Int.toNat_natCast, Nat.pow_eq, zpow_neg, zpow_natCast,
      hten, mul_pow]
    push_cast
    field_simp

/-- Either of two neighbours that read back may be chosen. -/
theorem toBinary64_choice {x : Binary64} {e : Int} {low high : Nat} (upper : Bool)
    (hlow : Decimal.toBinary64 x.negative ⟨low, e⟩ = x)
    (hhigh : Decimal.toBinary64 x.negative ⟨high, e⟩ = x) :
    Decimal.toBinary64 x.negative ⟨if upper then high else low, e⟩ = x := by
  cases upper
  · exact hlow
  · exact hhigh

/-- Whatever a grid yields reads back. -/
theorem toBinary64_of_onGrid? {x : Binary64} {tie : Tie} {e : Int} {d : Decimal}
    (h : x.onGrid? tie e = some d) : d.toBinary64 x.negative = x := by
  simp only [onGrid?, decide_eq_true_eq] at h
  split at h
  · next hlow =>
    split at h
    · next hhigh =>
      rw [← Option.some.inj h]
      exact toBinary64_choice _ hlow hhigh
    · rw [← Option.some.inj h]
      exact hlow
  · split at h
    · next hhigh =>
      rw [← Option.some.inj h]
      exact hhigh
    · exact absurd h (by simp only [reduceCtorEq, not_false_eq_true])

/-- What the search over the grids ends with reads back. -/
theorem toBinary64_searchDecimal {x : Binary64} (hx : x.isFinite = true) (tie : Tie) (scale : Int)
    (tries n : Nat) : (x.searchDecimal tie scale tries n).toBinary64 x.negative = x := by
  induction tries generalizing n with
  | zero => exact toBinary64_exactDecimal hx
  | succ tries ih =>
    rw [searchDecimal]
    split
    · next d hd => exact toBinary64_of_onGrid? hd
    · exact ih (n + 1)

/-- **A finite number is read back from the decimal that is written for it.** -/
theorem toBinary64_toDecimal {x : Binary64} (hx : x.isFinite = true) (tie : Tie) :
    (x.toDecimal tie).toBinary64 x.negative = x := by
  rw [toDecimal]
  split
  · next h =>
    obtain ⟨negative, code, hlt⟩ := x
    obtain rfl : code = 0 := h
    rfl
  · -- the zeros are stripped after the search, so this is not what was tested
    rw [Decimal.toBinary64_congr _ (Decimal.value_strip _), toBinary64_searchDecimal hx]

end Binary64

end RecordQuery
