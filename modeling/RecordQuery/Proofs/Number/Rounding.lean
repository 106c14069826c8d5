import RecordQuery.Number.Binary64
import Mathlib.Data.Int.Log
import Mathlib.Tactic
/-!
# Rounding a quotient depends on its value alone

`Width.roundCode` takes a quotient of naturals apart by the logarithms of its
two sides. Here it is read as a function of the quotient's value: the unit it
measures in is `unitOf` the value (`roundCode_eq`), so equal quotients get
equal codes (`roundCode_congr`), and a value that a code stands for gets that
very code (`roundCode_exact`). For double width, the values too large and too
small for any finite code are settled at the end.
-/

namespace RecordQuery

/-! ## The nearest natural -/

/-- Scaling both sides of a quotient changes nothing. -/
theorem divEven_mul_right {n d k : Nat} (hk : 0 < k) :
    divEven (n * k) (d * k) = divEven n d := by
  have hlow : 2 * (n % d * k) < d * k ↔ 2 * (n % d) < d := by
    rw [← Nat.mul_assoc, Nat.mul_lt_mul_right hk]
  have hhigh : d * k < 2 * (n % d * k) ↔ d < 2 * (n % d) := by
    rw [← Nat.mul_assoc, Nat.mul_lt_mul_right hk]
  simp only [divEven, Nat.mul_div_mul_right _ _ hk, Nat.mul_mod_mul_right, hlow, hhigh]

/-- Equal quotients are rounded to the same natural. -/
theorem divEven_congr {n d n' d' : Nat} (hd : 0 < d) (hd' : 0 < d') (h : n * d' = n' * d) :
    divEven n d = divEven n' d' := by
  rw [← divEven_mul_right (n := n) hd', h, Nat.mul_comm d d', divEven_mul_right hd]

/-- A natural is its own rounding. -/
theorem divEven_mul_self {k d : Nat} (hd : 0 < d) : divEven (k * d) d = k := by
  simp only [divEven, Nat.mul_div_cancel _ hd, Nat.mul_mod_left, Nat.mul_zero, if_pos hd]

/-- Less than a half is rounded to zero. -/
theorem divEven_eq_zero {n d : Nat} (h : 2 * n < d) : divEven n d = 0 := by
  have hlt : n < d := by omega
  simp only [divEven, Nat.div_eq_of_lt hlt, Nat.mod_eq_of_lt hlt, if_pos h]

/-- Rounding does not fall below a natural under the quotient. -/
theorem le_divEven {k n d : Nat} (hd : 0 < d) (h : k * d ≤ n) : k ≤ divEven n d := by
  have hk : k ≤ n / d := (Nat.le_div_iff_mul_le hd).2 h
  simp only [divEven]
  split
  · exact hk
  · split
    · omega
    · split <;> omega

/-! ## The logarithm -/

/-- An integer power, as the quotient of naturals that the definitions
compute with. -/
theorem zpow_eq_div (b : Nat) (e : Int) :
    (b : Rat) ^ e = (b ^ e.toNat : Nat) / (b ^ (-e).toNat : Nat) := by
  rcases Int.le_total 0 e with h | h
  · obtain ⟨k, rfl⟩ := Int.eq_ofNat_of_zero_le h
    simp
  · obtain ⟨k, hk⟩ := Int.eq_ofNat_of_zero_le (Int.neg_nonneg_of_nonpos h)
    obtain rfl : e = -(k : Int) := by omega
    simp

/-- A quotient measured in a power of two. -/
theorem scaled_ratio (n d : Nat) (e : Int) :
    ((n * 2 ^ (-e).toNat : Nat) : Rat) / (d * 2 ^ e.toNat : Nat) = (n : Rat) / d / 2 ^ e := by
  have h : (2 : Rat) ^ e = _ := zpow_eq_div 2 e
  rw [h]
  push_cast
  field_simp

/-- The comparison that `log2Quotient` makes. -/
theorem below_iff {n d : Nat} (hd : 0 < d) (e : Int) :
    (if 0 ≤ e then decide (n < d * Nat.pow 2 e.toNat)
      else decide (n * Nat.pow 2 (-e).toNat < d)) = true ↔
      (n : Rat) / d < ((2 : Nat) : Rat) ^ e := by
  have hiff : (n : Rat) / d < ((2 : Nat) : Rat) ^ e ↔
      n * 2 ^ (-e).toNat < d * 2 ^ e.toNat := by
    rw [zpow_eq_div, div_lt_div_iff₀ (by exact_mod_cast hd) (by positivity),
      mul_comm (Nat.cast _) (d : Rat)]
    norm_cast
  rw [hiff]
  split
  · next h =>
    have hneg : (-e).toNat = 0 := by omega
    simp [hneg]
  · next h =>
    have hpos : e.toNat = 0 := by omega
    simp [hpos]

/-- **`log2Quotient` is the logarithm of the value.** The logarithms of the two
sides give it up to one step, and the comparison takes the step. -/
theorem log2Quotient_eq_log {n d : Nat} (hn : 0 < n) (hd : 0 < d) :
    log2Quotient n d = Int.log 2 ((n : Rat) / d) := by
  have hd' : (0 : Rat) < d := Nat.cast_pos.2 hd
  have hq : (0 : Rat) < (n : Rat) / d := div_pos (Nat.cast_pos.2 hn) hd'
  have hn1 : (2 : Rat) ^ n.log2 ≤ n := by exact_mod_cast Nat.log2_self_le hn.ne'
  have hn2 : (n : Rat) < 2 ^ (n.log2 + 1) := by exact_mod_cast Nat.lt_log2_self
  have hd1 : (2 : Rat) ^ d.log2 ≤ d := by exact_mod_cast Nat.log2_self_le hd.ne'
  have hd2 : (d : Rat) < 2 ^ (d.log2 + 1) := by exact_mod_cast Nat.lt_log2_self
  have two : ((2 : Nat) : Rat) = 2 := rfl
  -- the two logarithms bound the value by powers that are two steps apart
  have hlow : ((2 : Nat) : Rat) ^ ((n.log2 : Int) - d.log2 - 1) ≤ n / d := by
    rw [le_div_iff₀ hd', two]
    calc (2 : Rat) ^ ((n.log2 : Int) - d.log2 - 1) * d
        ≤ 2 ^ ((n.log2 : Int) - d.log2 - 1) * 2 ^ (d.log2 + 1) := by gcongr
      _ = 2 ^ n.log2 := by
        rw [← zpow_natCast, ← zpow_natCast, ← zpow_add₀ two_ne_zero]
        congr 1
        push_cast
        ring
      _ ≤ n := hn1
  have hhigh : (n : Rat) / d < ((2 : Nat) : Rat) ^ ((n.log2 : Int) - d.log2 + 1) := by
    rw [div_lt_iff₀ hd', two]
    calc (n : Rat) < 2 ^ (n.log2 + 1) := hn2
      _ = 2 ^ ((n.log2 : Int) - d.log2 + 1) * 2 ^ d.log2 := by
        rw [← zpow_natCast, ← zpow_natCast, ← zpow_add₀ two_ne_zero]
        congr 1
        push_cast
        ring
      _ ≤ 2 ^ ((n.log2 : Int) - d.log2 + 1) * d := by gcongr
  have hle := (Int.zpow_le_iff_le_log one_lt_two hq).1 hlow
  have hlt := (Int.lt_zpow_iff_log_lt one_lt_two hq).1 hhigh
  rw [log2Quotient]
  by_cases hb : (n : Rat) / d < ((2 : Nat) : Rat) ^ ((n.log2 : Int) - d.log2)
  · have := (Int.lt_zpow_iff_log_lt one_lt_two hq).1 hb
    rw [if_pos ((below_iff hd _).2 hb)]
    omega
  · have := (Int.zpow_le_iff_le_log one_lt_two hq).1 (not_lt.1 hb)
    rw [if_neg (mt (below_iff hd _).1 hb)]
    omega

namespace Width

/-! ## Codes of values -/

/-- The power of two that a value is measured in. -/
def unitOf (w : Width) (q : Rat) : Int := max w.lowest (Int.log 2 q - ((w.bits : Int) - 1))

/-- **The equation of rounding**, in which the value decides the unit. -/
theorem roundCode_eq (w : Width) {n d : Nat} (hn : 0 < n) (hd : 0 < d) :
    w.roundCode n d =
      min ((w.unitOf ((n : Rat) / d) - w.lowest).toNat * w.binade +
        divEven (n * 2 ^ (-w.unitOf ((n : Rat) / d)).toNat)
          (d * 2 ^ (w.unitOf ((n : Rat) / d)).toNat)) w.infinity := by
  rw [roundCode, if_neg hn.ne', log2Quotient_eq_log hn hd]
  simp only [Nat.pow_eq]
  change min ((w.unitOf _ - w.lowest).toNat * w.binade +
    (if 0 ≤ w.unitOf _ then divEven n (d * 2 ^ (w.unitOf _).toNat)
      else divEven (n * 2 ^ (-w.unitOf _).toNat) d)) _ = _
  -- whatever the sign of the unit, one of the two powers is `1`
  split
  · next h =>
    have hneg : (-w.unitOf ((n : Rat) / d)).toNat = 0 := by omega
    rw [hneg, Nat.pow_zero, Nat.mul_one]
  · next h =>
    have hpos : (w.unitOf ((n : Rat) / d)).toNat = 0 := by omega
    rw [hpos, Nat.pow_zero, Nat.mul_one]

/-- **Equal quotients get equal codes.** -/
theorem roundCode_congr (w : Width) {n d n' d' : Nat} (hd : 0 < d) (hd' : 0 < d')
    (h : n * d' = n' * d) : w.roundCode n d = w.roundCode n' d' := by
  rcases Nat.eq_zero_or_pos n with rfl | hn
  · have hn' : n' = 0 := by
      rw [Nat.zero_mul] at h
      exact (Nat.mul_eq_zero.1 h.symm).resolve_right hd.ne'
    rw [hn', roundCode, roundCode, if_pos rfl, if_pos rfl]
  · have hn' : 0 < n' := Nat.pos_of_mul_pos_right (h ▸ Nat.mul_pos hn hd')
    have hq : (n : Rat) / d = n' / d' := by
      rw [div_eq_div_iff (by exact_mod_cast hd.ne') (by exact_mod_cast hd'.ne')]
      exact_mod_cast h
    rw [roundCode_eq w hn hd, roundCode_eq w hn' hd', hq]
    congr 2
    refine divEven_congr (Nat.mul_pos hd (by positivity)) (Nat.mul_pos hd' (by positivity)) ?_
    rw [Nat.mul_mul_mul_comm, h, Nat.mul_mul_mul_comm]

/-! ## The value of a code -/

theorem binade_pos (w : Width) : 0 < w.binade := Nat.two_pow_pos _

/-- A code counts its unit in binades, and its significand in the last one. -/
theorem unit_add_significand (w : Width) (code : Nat) :
    (w.unit code - w.lowest).toNat * w.binade + w.significand code = code := by
  have hunit : (w.unit code - w.lowest).toNat = code / w.binade - 1 := by
    rw [unit]
    omega
  rw [hunit, significand]
  split
  · next h => rw [Nat.div_eq_of_lt h, Nat.zero_sub, Nat.zero_mul, Nat.zero_add]
  · next h =>
    have hq : 1 ≤ code / w.binade := (Nat.le_div_iff_mul_le w.binade_pos).2 (by omega)
    have hdm : w.binade * (code / w.binade) + code % w.binade = code := Nat.div_add_mod _ _
    have hle : w.binade ≤ w.binade * (code / w.binade) := Nat.le_mul_of_pos_right _ hq
    rw [Nat.sub_mul, Nat.one_mul, Nat.mul_comm (code / w.binade)]
    omega

theorem significand_pos (w : Width) {code : Nat} (h : 0 < code) : 0 < w.significand code := by
  have := w.binade_pos
  rw [significand]
  split <;> omega

/-- A code is measured in the unit that its value asks for: below the first
binade that is the lowest one, and from there on the significand has all its
bits. -/
theorem unitOf_value (w : Width) (hw : 0 < w.bits) {code : Nat} (hpos : 0 < code) :
    w.unitOf ((w.significand code : Rat) * 2 ^ w.unit code) = w.unit code := by
  have two : ((2 : Nat) : Rat) = 2 := rfl
  obtain ⟨b, hb⟩ : ∃ b, w.bits = b + 1 := ⟨w.bits - 1, by omega⟩
  have hbinade : w.binade = 2 ^ b := by rw [binade, hb]; rfl
  have hsig := w.significand_pos hpos
  have hq : (0 : Rat) < w.significand code * 2 ^ w.unit code := by positivity
  by_cases h : code < w.binade
  · -- the value is too small for any unit but the lowest
    have hunit : w.unit code = w.lowest := by
      rw [unit, Nat.div_eq_of_lt h]
      simp
    have hlt : (w.significand code : Rat) * 2 ^ w.unit code <
        ((2 : Nat) : Rat) ^ (w.lowest + b) := by
      rw [hunit, two, zpow_add₀ two_ne_zero, mul_comm, zpow_natCast]
      gcongr
      rw [significand, if_pos h]
      exact_mod_cast hbinade ▸ h
    have := (Int.lt_zpow_iff_log_lt one_lt_two hq).1 hlt
    rw [unitOf, hunit] at *
    omega
  · -- the significand lies within one binade, which fixes the logarithm
    have hge : w.binade ≤ w.significand code := by
      rw [significand, if_neg h]
      omega
    have hlt : w.significand code < 2 * w.binade := by
      have := Nat.mod_lt code w.binade_pos
      rw [significand, if_neg h]
      omega
    have hunit : w.lowest ≤ w.unit code := by
      rw [unit]
      omega
    have hfrom : ((2 : Nat) : Rat) ^ (w.unit code + b) ≤
        w.significand code * 2 ^ w.unit code := by
      rw [two, zpow_add₀ two_ne_zero, mul_comm, zpow_natCast]
      gcongr
      exact_mod_cast hbinade ▸ hge
    have hto : (w.significand code : Rat) * 2 ^ w.unit code <
        ((2 : Nat) : Rat) ^ (w.unit code + (b + 1 : Nat)) := by
      rw [two, zpow_add₀ two_ne_zero, mul_comm, zpow_natCast, pow_succ']
      gcongr
      exact_mod_cast hbinade ▸ hlt
    have := (Int.zpow_le_iff_le_log one_lt_two hq).1 hfrom
    have := (Int.lt_zpow_iff_log_lt one_lt_two hq).1 hto
    rw [unitOf]
    omega

/-- **A value that a finite code stands for is rounded to that code.** -/
theorem roundCode_exact (w : Width) (hw : 0 < w.bits) {n d code : Nat} (hd : 0 < d)
    (hcode : code < w.infinity)
    (h : (n : Rat) / d = w.significand code * 2 ^ w.unit code) : w.roundCode n d = code := by
  have hd' : (d : Rat) ≠ 0 := by exact_mod_cast hd.ne'
  rcases Nat.eq_zero_or_pos code with rfl | hpos
  · have hn : n = 0 := by simpa [significand, w.binade_pos, hd'] using h
    rw [roundCode, if_pos hn]
  · have hsig := w.significand_pos hpos
    have hn : 0 < n := by
      rcases Nat.eq_zero_or_pos n with rfl | hn
      · have hzero : (0 : Rat) < 0 := by
          calc (0 : Rat) < w.significand code * 2 ^ w.unit code := by positivity
            _ = 0 := by rw [← h]; simp
        exact absurd hzero (lt_irrefl _)
      · exact hn
    -- measured in its own unit, the value is a natural, and nothing is rounded
    have hunit := w.unitOf_value hw hpos
    rw [← h] at hunit
    have hratio := scaled_ratio n d (w.unit code)
    rw [h, mul_div_assoc, div_self (by positivity), mul_one, div_eq_iff (by positivity)] at hratio
    have hscaled : n * 2 ^ (-w.unit code).toNat =
        w.significand code * (d * 2 ^ (w.unit code).toNat) := by
      exact_mod_cast hratio
    rw [roundCode_eq w hn hd, hunit, hscaled, divEven_mul_self (by positivity),
      unit_add_significand]
    exact Nat.min_eq_left hcode.le

/-! ## Values out of range -/

/-- From the `1024`th power of two on, a value is infinite in double width. -/
theorem roundCode_of_ge {n d : Nat} (hd : 0 < d) (h : (2 : Rat) ^ (1024 : Int) ≤ n / d) :
    double.roundCode n d = double.infinity := by
  have hq : (0 : Rat) < n / d := lt_of_lt_of_le (by positivity) h
  have hn : 0 < n := by
    rcases Nat.eq_zero_or_pos n with rfl | hn
    · simp at hq
    · exact hn
  have hlog : 1024 ≤ Int.log 2 ((n : Rat) / d) :=
    (Int.zpow_le_iff_le_log one_lt_two hq).1 h
  have hunit : double.unitOf ((n : Rat) / d) = Int.log 2 ((n : Rat) / d) - 52 := by
    rw [unitOf]
    simp only [double]
    omega
  -- the significand has all its bits, so the sum is past the last binade
  have hsig : 2 ^ 52 ≤ divEven (n * 2 ^ (-double.unitOf ((n : Rat) / d)).toNat)
      (d * 2 ^ (double.unitOf ((n : Rat) / d)).toNat) := by
    refine le_divEven (by positivity) ?_
    have hfull : (2 : Rat) ^ 52 ≤ (n : Rat) / d / 2 ^ double.unitOf ((n : Rat) / d) := by
      rw [le_div_iff₀ (by positivity), hunit, ← zpow_natCast, ← zpow_add₀ two_ne_zero]
      exact le_trans (le_of_eq (by congr 1; push_cast; ring)) (Int.zpow_log_le_self one_lt_two hq)
    rw [← scaled_ratio, le_div_iff₀ (by positivity)] at hfull
    exact_mod_cast hfull
  have hcount : 2046 ≤ (double.unitOf ((n : Rat) / d) - double.lowest).toNat := by
    rw [hunit]
    simp only [double]
    omega
  rw [roundCode_eq _ hn hd]
  refine Nat.min_eq_right ?_
  calc double.infinity = 2046 * double.binade + 2 ^ 52 := by decide
    _ ≤ _ := Nat.add_le_add (Nat.mul_le_mul_right _ hcount) hsig

/-- Below half of the smallest unit, a value is zero in double width. -/
theorem roundCode_of_lt {n d : Nat} (hd : 0 < d) (h : (n : Rat) / d < 2 ^ (-1075 : Int)) :
    double.roundCode n d = 0 := by
  rcases Nat.eq_zero_or_pos n with rfl | hn
  · rw [roundCode, if_pos rfl]
  · have hq : (0 : Rat) < n / d := by positivity
    have hlog : Int.log 2 ((n : Rat) / d) < -1075 :=
      (Int.lt_zpow_iff_log_lt one_lt_two hq).1 h
    have hunit : double.unitOf ((n : Rat) / d) = double.lowest := by
      rw [unitOf]
      simp only [double]
      omega
    -- less than a half of the unit is rounded to none of it
    have hhalf : (n : Rat) / d / 2 ^ double.lowest < 1 / 2 := by
      rw [div_lt_iff₀ (by positivity)]
      refine lt_of_lt_of_le h (le_of_eq ?_)
      rw [show (1 / 2 : Rat) = 2 ^ (-1 : Int) by norm_num, ← zpow_add₀ two_ne_zero]
      rfl
    rw [← scaled_ratio, div_lt_div_iff₀ (by positivity) (by norm_num), one_mul, mul_comm]
      at hhalf
    rw [roundCode_eq _ hn hd, hunit, divEven_eq_zero (by exact_mod_cast hhalf), Int.sub_self]
    rfl

end Width

end RecordQuery
