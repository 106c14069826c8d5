import RecordQuery.Proofs.Number.Rounding
/-!
# Rounding keeps the order

The nearest natural does not fall when a quotient grows (`divEven_mono`). A greater
value may also be measured in a greater unit, and there the significand of the one
reaches at most to where that of the other begins, so the code does not fall either
(`Width.roundCode_mono`).
-/

namespace RecordQuery

/-! ## The nearest natural -/

theorem divEven_le (n d : Nat) : divEven n d ≤ n / d + 1 := by
  simp only [divEven]
  split_ifs <;> omega

/-- Rounding keeps the order of quotients by one natural. -/
theorem divEven_mono_left {n n' d : Nat} (hd : 0 < d) (h : n ≤ n') :
    divEven n d ≤ divEven n' d := by
  rcases (Nat.div_le_div_right h : n / d ≤ n' / d).lt_or_eq with hlt | heq
  · calc divEven n d ≤ n / d + 1 := divEven_le n d
      _ ≤ n' / d := hlt
      _ ≤ divEven n' d := le_divEven hd (Nat.div_mul_le_self n' d)
  · -- the remainders are in the order of the naturals, and decide
    have hn := Nat.div_add_mod n d
    have hn' := Nat.div_add_mod n' d
    rw [heq] at hn
    have hr : n % d ≤ n' % d := by omega
    simp only [divEven, heq]
    split_ifs <;> omega

/-- Rounding keeps the order of quotients. -/
theorem divEven_mono {n d n' d' : Nat} (hd : 0 < d) (hd' : 0 < d') (h : n * d' ≤ n' * d) :
    divEven n d ≤ divEven n' d' := by
  rw [← divEven_mul_right (n := n) hd', ← divEven_mul_right (n := n') hd, Nat.mul_comm d' d]
  exact divEven_mono_left (Nat.mul_pos hd hd') h

/-- Rounding does not rise above a natural over the quotient. -/
theorem divEven_le_of_le_mul {k n d : Nat} (hd : 0 < d) (h : n ≤ k * d) : divEven n d ≤ k :=
  calc divEven n d ≤ divEven (k * d) d := divEven_mono_left hd h
    _ = k := divEven_mul_self hd

namespace Width

variable {w : Width} {n d n' d' : Nat}

/-! ## Codes -/

theorem unitOf_mono (w : Width) {q q' : Rat} (hq : 0 < q) (h : q ≤ q') :
    w.unitOf q ≤ w.unitOf q' := by
  have := Int.log_mono_right (b := 2) hq h
  rw [unitOf, unitOf]
  omega

/-- Measured in its unit, a value is less than the least significand of the next
binade. -/
theorem scaled_lt (hw : 0 < w.bits) (q : Rat) :
    q / 2 ^ w.unitOf q < (2 * w.binade : Nat) := by
  have hlog := Int.lt_zpow_succ_log_self (b := 2) one_lt_two q
  have hunit : Int.log 2 q + 1 ≤ w.unitOf q + w.bits := by
    rw [unitOf]
    omega
  obtain ⟨b, hb⟩ : ∃ b, w.bits = b + 1 := ⟨w.bits - 1, by omega⟩
  have htwo : 2 * w.binade = 2 ^ w.bits := by
    rw [binade, hb]
    exact (pow_succ' 2 b).symm
  rw [div_lt_iff₀ (by positivity), htwo]
  calc q < ((2 : Nat) : Rat) ^ (Int.log 2 q + 1) := hlog
    _ ≤ 2 ^ (w.unitOf q + w.bits) := zpow_le_zpow_right₀ (by norm_num) hunit
    _ = (2 ^ w.bits : Nat) * 2 ^ w.unitOf q := by
      rw [zpow_add₀ two_ne_zero, mul_comm, zpow_natCast]
      push_cast
      rfl

/-- Measured in a unit above the least one, a value is not less than the least
significand of its binade. -/
theorem le_scaled (hw : 0 < w.bits) {q : Rat} (hq : 0 < q) (h : w.lowest < w.unitOf q) :
    (w.binade : Rat) ≤ q / 2 ^ w.unitOf q := by
  have hlog := Int.zpow_log_le_self (b := 2) one_lt_two hq
  have hunit : w.unitOf q + (w.bits - 1 : Nat) = Int.log 2 q := by
    rw [unitOf] at *
    omega
  rw [le_div_iff₀ (by positivity)]
  calc (w.binade : Rat) * 2 ^ w.unitOf q
      = 2 ^ (w.unitOf q + (w.bits - 1 : Nat)) := by
        rw [zpow_add₀ two_ne_zero, mul_comm, zpow_natCast, binade, Nat.pow_eq]
        push_cast
        rfl
    _ ≤ q := by
      rw [hunit]
      exact hlog

/-- **A greater value gets no smaller code.** -/
theorem roundCode_mono (hw : 0 < w.bits) (hd : 0 < d) (hd' : 0 < d') (h : n * d' ≤ n' * d) :
    w.roundCode n d ≤ w.roundCode n' d' := by
  rcases Nat.eq_zero_or_pos n with rfl | hn
  · rw [roundCode, if_pos rfl]
    exact Nat.zero_le _
  have hn' : 0 < n' := Nat.pos_of_mul_pos_right ((Nat.mul_pos hn hd').trans_le h)
  have hq : (0 : Rat) < n / d := by positivity
  have hq' : (0 : Rat) < n' / d' := by positivity
  have hle : (n : Rat) / d ≤ n' / d' := by
    rw [div_le_div_iff₀ (by positivity) (by positivity)]
    exact_mod_cast h
  rw [roundCode_eq w hn hd, roundCode_eq w hn' hd']
  refine min_le_min_right _ ?_
  rcases (unitOf_mono w hq hle).lt_or_eq with hlt | heq
  · -- the units differ, and there is a whole binade between the two
    have hlow : w.lowest ≤ w.unitOf ((n : Rat) / d) := le_max_left _ _
    have hbelow := scaled_lt hw ((n : Rat) / d)
    have habove := le_scaled hw hq' (hlow.trans_lt hlt)
    rw [← scaled_ratio, div_lt_iff₀ (by positivity)] at hbelow
    rw [← scaled_ratio, le_div_iff₀ (by positivity)] at habove
    have hcount : (w.unitOf ((n : Rat) / d) - w.lowest).toNat + 1 ≤
        (w.unitOf ((n' : Rat) / d') - w.lowest).toNat := by omega
    calc _ ≤ (w.unitOf ((n : Rat) / d) - w.lowest).toNat * w.binade + 2 * w.binade :=
          Nat.add_le_add_left (divEven_le_of_le_mul (by positivity) (by exact_mod_cast hbelow.le)) _
      _ = ((w.unitOf ((n : Rat) / d) - w.lowest).toNat + 1) * w.binade + w.binade := by ring
      _ ≤ (w.unitOf ((n' : Rat) / d') - w.lowest).toNat * w.binade + w.binade := by gcongr
      _ ≤ _ := Nat.add_le_add_left (le_divEven (by positivity) (by exact_mod_cast habove)) _
  · rw [heq]
    refine Nat.add_le_add_left (divEven_mono (by positivity) (by positivity) ?_) _
    calc n * 2 ^ _ * (d' * 2 ^ _) = n * d' * (2 ^ _ * 2 ^ _) := Nat.mul_mul_mul_comm _ _ _ _
      _ ≤ n' * d * (2 ^ _ * 2 ^ _) := Nat.mul_le_mul_right _ h
      _ = n' * 2 ^ _ * (d * 2 ^ _) := Nat.mul_mul_mul_comm _ _ _ _

/-- Nothing is rounded to more than infinity. -/
theorem roundCode_le_infinity (w : Width) (n d : Nat) : w.roundCode n d ≤ w.infinity := by
  rw [roundCode]
  split
  · exact Nat.zero_le _
  · exact Nat.min_le_right _ _

/-! ## Values of codes -/

/-- A significand with all its bits is taken back out of a code. -/
theorem significand_of_full {k s : Nat} (hlow : w.binade ≤ s) (hhigh : s < 2 * w.binade) :
    w.significand (k * w.binade + s) = s := by
  obtain ⟨t, rfl⟩ := Nat.exists_eq_add_of_le hlow
  have hcode : k * w.binade + (w.binade + t) = t + w.binade * (k + 1) := by ring
  rw [significand, if_neg (by omega), hcode, Nat.add_mul_mod_self_left,
    Nat.mod_eq_of_lt (by omega), Nat.add_comm]

/-- The unit of a full significand is that of its binade. -/
theorem unit_of_full {k s : Nat} (hlow : w.binade ≤ s) (hhigh : s < 2 * w.binade) :
    w.unit (k * w.binade + s) = w.lowest + k := by
  obtain ⟨t, rfl⟩ := Nat.exists_eq_add_of_le hlow
  have hcode : k * w.binade + (w.binade + t) = t + w.binade * (k + 1) := by ring
  rw [unit, hcode, Nat.add_mul_div_left _ _ w.binade_pos, Nat.div_eq_of_lt (by omega),
    Nat.zero_add, Nat.add_sub_cancel]

/-- A natural of at most `53` bits is the value of a code. -/
theorem exists_code_of_lt {m : Nat} (hpos : 0 < m) (hm : m < 2 ^ 53) :
    ∃ code < double.infinity, (m : Rat) = double.significand code * 2 ^ double.unit code := by
  obtain ⟨j, hj⟩ : ∃ j, m.log2 + j = 52 :=
    ⟨52 - m.log2, Nat.add_sub_cancel' (Nat.le_of_lt_succ ((Nat.log2_lt hpos.ne').2 hm))⟩
  -- shifted to the left until it has all its bits, it is a significand
  have hlow : double.binade ≤ m * 2 ^ j :=
    calc double.binade = 2 ^ (m.log2 + j) := by rw [hj]; rfl
      _ = 2 ^ m.log2 * 2 ^ j := pow_add _ _ _
      _ ≤ m * 2 ^ j := Nat.mul_le_mul_right _ (Nat.log2_self_le hpos.ne')
  have hhigh : m * 2 ^ j < 2 * double.binade :=
    calc m * 2 ^ j < 2 ^ (m.log2 + 1) * 2 ^ j := by
          gcongr
          exact Nat.lt_log2_self
      _ = 2 * 2 ^ (m.log2 + j) := by ring
      _ = 2 * double.binade := by rw [hj]; rfl
  refine ⟨(1022 + m.log2) * double.binade + m * 2 ^ j, ?_, ?_⟩
  · have : double.infinity = 2047 * double.binade := by decide
    have : (1022 + m.log2) * double.binade ≤ 1074 * double.binade :=
      Nat.mul_le_mul_right _ (by omega)
    omega
  · have hunit : double.lowest + ((1022 + m.log2 : Nat) : Int) = -(j : Int) := by
      simp only [double]
      omega
    rw [significand_of_full hlow hhigh, unit_of_full hlow hhigh, hunit, zpow_neg, zpow_natCast]
    push_cast
    field_simp

theorem exists_code_of_le {m : Nat} (hm : m ≤ 2 ^ 53) :
    ∃ code < double.infinity, (m : Rat) = double.significand code * 2 ^ double.unit code := by
  rcases Nat.eq_zero_or_pos m with rfl | hpos
  · exact ⟨0, by decide, by simp [significand, binade_pos]⟩
  · rcases hm.lt_or_eq with hlt | rfl
    · exact exists_code_of_lt hpos hlt
    · -- one bit more, but the last one is none
      have hfull : double.binade < 2 * double.binade := by decide
      refine ⟨1075 * double.binade + double.binade, by decide, ?_⟩
      rw [significand_of_full le_rfl hfull, unit_of_full le_rfl hfull]
      norm_num [binade, double]

end Width

namespace Binary64

/-- The number that a finite floating-point number is. -/
def value (x : Binary64) : Rat := (if x.negative then -1 else 1) * (x.significand * 2 ^ x.unit)

theorem value_nonpos {x : Binary64} (h : x.negative = true) : x.value ≤ 0 := by
  rw [value, if_pos h, neg_one_mul]
  exact neg_nonpos.2 (by positivity)

theorem value_nonneg {x : Binary64} (h : x.negative = false) : 0 ≤ x.value := by
  rw [value, if_neg (Bool.eq_false_iff.1 h), one_mul]
  positivity

/-- **An integer of at most `53` bits is not changed by rounding it.** -/
theorem value_ofInt {n : Int} (h : n.natAbs ≤ 2 ^ 53) : (ofInt n).value = n := by
  obtain ⟨code, hcode, hvalue⟩ := Width.exists_code_of_le h
  have hround : Width.double.roundCode n.natAbs 1 = code :=
    Width.roundCode_exact _ (by decide) one_pos hcode (by rwa [Nat.cast_one, div_one])
  have hmin : (ofInt n).code = code := by
    rw [ofInt, ofQuotient, hround]
    exact Nat.min_eq_left hcode.le
  have hsign : (ofInt n).negative = decide (n < 0) := rfl
  rw [value, significand, unit, hmin, ← hvalue, hsign, Nat.cast_natAbs]
  by_cases hn : n < 0
  · rw [decide_eq_true hn, if_pos rfl, abs_of_neg hn]
    push_cast
    ring
  · rw [decide_eq_false hn, abs_of_nonneg (not_lt.1 hn)]
    simp

end Binary64

end RecordQuery
