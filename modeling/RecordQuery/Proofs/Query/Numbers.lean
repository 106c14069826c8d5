import RecordQuery.Proofs.Number.Decimal
import RecordQuery.Proofs.Number.Ordering
import RecordQuery.Proofs.Query.Keys
/-!
# Numbers are sorted by their values

Numbers are compared after they have been rounded to floating-point numbers, in the
order that tells all of these apart. Rounding keeps the order of the values
(`Number.rank_le_of_value_lt`), so the answer is the order of the exact values unless
two numbers are rounded to one, and then they tie (`Number.totalCompare_eq`). That
happens to integers of more than `53` bits only. The two zeros are left aside, which
are one value and yet two floating-point numbers.
-/

namespace RecordQuery

open Json

/-! ## Values and their roundings -/

namespace Json.Number

variable {u v : Number}

/-- The exact value of a number. -/
def value : Number → Rat
  | integer n _ => n
  | float x _ => x.value

/-- Whether a number is a floating-point number, or an integer of at most `53` bits. -/
def IsShort : Number → Prop
  | integer n _ => n.natAbs ≤ 2 ^ 53
  | float _ _ => True

/-- Rounding does not change such a number. -/
theorem IsShort.value_toBinary64 (h : u.IsShort) : u.toBinary64.value = u.value := by
  cases u with
  | integer n fits => exact Binary64.value_ofInt h
  | float x finite => rfl

/-- The magnitude of a number is what is rounded. -/
theorem exists_roundCode_eq (u : Number) :
    ∃ n d : Nat, 0 < d ∧ |u.value| = n / d ∧ u.toBinary64.code = Width.double.roundCode n d := by
  cases u with
  | integer n fits =>
    refine ⟨n.natAbs, 1, one_pos, ?_, ?_⟩
    · rw [value, Nat.cast_one, div_one, Nat.cast_natAbs, Int.cast_abs]
    · exact Nat.min_eq_left (Width.roundCode_le_infinity _ _ _)
  | float x finite =>
    have hcode : x.code < Width.double.infinity := of_decide_eq_true finite
    have hmagnitude := x.numerator_div_denominator
    refine ⟨x.numerator, x.denominator, x.denominator_pos, ?_, ?_⟩
    · have hnonneg : (0 : Rat) ≤ x.significand * 2 ^ x.unit := by positivity
      rw [hmagnitude, value, Binary64.value, abs_mul, abs_of_nonneg hnonneg]
      cases x.negative <;> simp
    · exact (Width.roundCode_exact _ (by decide) x.denominator_pos hcode hmagnitude).symm

theorem code_le_of_abs_le (h : |u.value| ≤ |v.value|) : u.toBinary64.code ≤ v.toBinary64.code := by
  obtain ⟨n, d, hd, hu, hcode⟩ := u.exists_roundCode_eq
  obtain ⟨n', d', hd', hv, hcode'⟩ := v.exists_roundCode_eq
  rw [hu, hv, div_le_div_iff₀ (by positivity) (by positivity)] at h
  rw [hcode, hcode']
  exact Width.roundCode_mono (by decide) hd hd' (by exact_mod_cast h)

/-- A number has the sign of its rounding, if it has any. -/
theorem value_nonpos (h : u.toBinary64.negative = true) : u.value ≤ 0 := by
  cases u with
  | integer n fits => exact (Int.cast_lt_zero.2 (of_decide_eq_true h)).le
  | float x finite => exact Binary64.value_nonpos h

theorem value_nonneg (h : u.toBinary64.negative = false) : 0 ≤ u.value := by
  cases u with
  | integer n fits => exact Int.cast_nonneg (not_lt.1 (of_decide_eq_false h))
  | float x finite => exact Binary64.value_nonneg h

/-- **Rounding keeps the order** of two numbers. -/
theorem rank_le_of_value_lt (h : u.value < v.value) : u.toBinary64.rank ≤ v.toBinary64.rank := by
  rw [Binary64.rank, Binary64.rank]
  cases hu : u.toBinary64.negative with
  | true =>
    cases hv : v.toBinary64.negative with
    | true =>
      have hcode : v.toBinary64.code ≤ u.toBinary64.code := by
        refine code_le_of_abs_le ?_
        rw [abs_of_nonpos (value_nonpos hu), abs_of_nonpos (value_nonpos hv)]
        exact neg_le_neg h.le
      simp only [if_true]
      omega
    | false =>
      simp only [if_true, Bool.false_eq_true, if_false]
      omega
  | false =>
    have hpos : 0 < v.value := (value_nonneg hu).trans_lt h
    have hv : v.toBinary64.negative = false :=
      Bool.eq_false_iff.2 fun hv => (value_nonpos hv).not_gt hpos
    have hcode : u.toBinary64.code ≤ v.toBinary64.code := by
      refine code_le_of_abs_le ?_
      rw [abs_of_nonneg (value_nonneg hu), abs_of_pos hpos]
      exact h.le
    simp only [hv, Bool.false_eq_true, if_false]
    omega

/-- Numbers of one value are rounded alike, unless the value is zero. -/
theorem toBinary64_eq_of_value_eq (h : u.value = v.value) (hne : u.value ≠ 0) :
    u.toBinary64 = v.toBinary64 := by
  have hcode : u.toBinary64.code = v.toBinary64.code :=
    le_antisymm (code_le_of_abs_le (by rw [h])) (code_le_of_abs_le (by rw [h]))
  have hsign : u.toBinary64.negative = v.toBinary64.negative := by
    cases hu : u.toBinary64.negative <;> cases hv : v.toBinary64.negative
    · rfl
    · exact absurd (le_antisymm (h ▸ value_nonpos hv) (value_nonneg hu)) hne
    · exact absurd (le_antisymm (value_nonpos hu) (h ▸ value_nonneg hv)) hne
    · rfl
  exact Binary64.rank_inj.1 (by rw [Binary64.rank, Binary64.rank, hsign, hcode])

/-- **Rounded numbers are in the order of their values**, unless they are one number. -/
theorem totalCompare_eq (hzero : u.value = 0 → v.value = 0 → u.toBinary64 = v.toBinary64) :
    u.toBinary64.totalCompare v.toBinary64 =
      if u.toBinary64 = v.toBinary64 then .eq else compare u.value v.value := by
  rw [Binary64.totalCompare]
  split
  · next heq => rw [heq, compare_eq_iff_eq]
  · next hne =>
    have hrank : u.toBinary64.rank ≠ v.toBinary64.rank := fun h => hne (Binary64.rank_inj.1 h)
    rcases lt_trichotomy u.value v.value with hlt | heq | hgt
    · rw [compare_lt_iff_lt.2 hlt, compare_lt_iff_lt]
      exact lt_of_le_of_ne (rank_le_of_value_lt hlt) hrank
    · by_cases hu : u.value = 0
      · exact absurd (hzero hu (heq ▸ hu)) hne
      · exact absurd (toBinary64_eq_of_value_eq heq hu) hne
    · rw [compare_gt_iff_gt.2 hgt, compare_gt_iff_gt]
      exact lt_of_le_of_ne (rank_le_of_value_lt hgt) hrank.symm

end Json.Number

/-! ## Records -/

/-- A member that is a number is sorted by its rounding. -/
theorem number?_toField (u : Number) :
    (Value.number u).toField.dereference.number? = some u.toBinary64 := by
  cases u with
  | integer n fits =>
    rw [Value.toField]
    split
    · rfl
    · next h =>
      have hn : ((n.toNat : Nat) : Int) = n := Int.toNat_of_nonneg (by omega)
      exact congrArg (fun m => some (Binary64.ofInt m)) hn
  | float x finite => rfl

variable {a b : Record} {tag : String} {u v : Number}

theorem sortKey_of_number (h : a.resolve (piecesOf '.' tag) = .ok (Value.number u).toField) :
    a.sortKey tag = .number u.toBinary64 := by
  rw [Record.sortKey, Record.keyAt_eq, h]
  exact ((SortKey.ofField_iff _).2.2.2.1 _).2 (number?_toField u)

/-- **Numbers are sorted by their values.** Two records with numbers under a tag are in
the order of these as long as they are rounded to different floating-point numbers,
and where they are rounded to one the later criteria decide. Floating-point numbers
and integers of at most `53` bits are thus in the order of their exact values. -/
theorem compare_numbers (ha : a.resolve (piecesOf '.' tag) = .ok (Value.number u).toField)
    (hb : b.resolve (piecesOf '.' tag) = .ok (Value.number v).toField)
    (hzero : u.value = 0 → v.value = 0 → u.toBinary64 = v.toBinary64) (rest : List Criterion) :
    Sorting.compare ⟨⟨tag, .ascending⟩ :: rest⟩ a b =
        (if u.toBinary64 = v.toBinary64 then .eq else compare u.value v.value).then
          (Sorting.compare ⟨rest⟩ a b) ∧
      (u.IsShort → v.IsShort →
        Sorting.compare ⟨⟨tag, .ascending⟩ :: rest⟩ a b =
          (compare u.value v.value).then (Sorting.compare ⟨rest⟩ a b)) := by
  have hcompare : Sorting.compare ⟨⟨tag, .ascending⟩ :: rest⟩ a b =
      (if u.toBinary64 = v.toBinary64 then .eq else compare u.value v.value).then
        (Sorting.compare ⟨rest⟩ a b) := by
    rw [← Number.totalCompare_eq hzero, Sorting.compare, compareBy, Criterion.compare,
      sortKey_of_number ha, sortKey_of_number hb]
    rfl
  refine ⟨hcompare, fun hu hv => ?_⟩
  rw [hcompare]
  congr 1
  split
  · next heq =>
    have hvalue : u.value = v.value := by
      rw [← hu.value_toBinary64, ← hv.value_toBinary64, heq]
    rw [hvalue, compare_eq_iff_eq.2 rfl]
  · rfl

/-- A document with a number. -/
def numbered (u : Number) : Record := .document (.object [("n", .number u)])

theorem numbered_resolve (u : Number) :
    (numbered u).resolve (piecesOf '.' "n") = .ok (Value.number u).toField := rfl

/-- The least natural that is no floating-point number. -/
def leastRounded : Number := .integer 9007199254740993 (by decide)

/-- The floating-point number behind it. -/
def behindRounded : Number := .float ⟨false, 0x4340000000000001, by decide⟩ rfl

theorem value_leastRounded : leastRounded.value = 9007199254740993 := by
  norm_num [leastRounded, Number.value]

theorem value_behindRounded : behindRounded.value = 9007199254740994 := by
  have hsignificand : Width.double.significand 0x4340000000000001 = 4503599627370497 := by decide
  have hunit : Width.double.unit 0x4340000000000001 = 1 := by decide
  norm_num [behindRounded, Number.value, Binary64.value, Binary64.significand, Binary64.unit,
    hsignificand, hunit]

/-- The least integer that is rounded is sorted before the floating-point number
behind it. -/
theorem leastRounded_before :
    ((numbered leastRounded).resolve (piecesOf '.' "n") =
        .ok (Value.number leastRounded).toField ∧
      (numbered behindRounded).resolve (piecesOf '.' "n") =
        .ok (Value.number behindRounded).toField ∧
      (leastRounded.value = 0 → behindRounded.value = 0 →
        leastRounded.toBinary64 = behindRounded.toBinary64)) ∧
    Sorting.compare ⟨[⟨"n", .ascending⟩]⟩ (numbered leastRounded) (numbered behindRounded) =
      .lt := by
  have hzero : leastRounded.value = 0 → behindRounded.value = 0 →
      leastRounded.toBinary64 = behindRounded.toBinary64 := by
    intro h
    rw [value_leastRounded] at h
    norm_num at h
  have hlt : leastRounded.value < behindRounded.value := by
    rw [value_leastRounded, value_behindRounded]
    norm_num
  refine ⟨⟨numbered_resolve _, numbered_resolve _, hzero⟩, ?_⟩
  rw [(compare_numbers (numbered_resolve _) (numbered_resolve _) hzero []).1,
    if_neg (by decide), compare_lt_iff_lt.2 hlt]
  rfl

/-- The least integer that is rounded ties with the one before it, although it is
greater, and a negative zero is sorted before zero. -/
theorem leastRounded_ties :
    (Criterion.compare ⟨"n", .ascending⟩ (numbered leastRounded)
          (numbered (.integer 9007199254740992 (by decide))) = .eq ∧
      compare leastRounded.value (Number.value (.integer 9007199254740992 (by decide))) = .gt) ∧
    (Criterion.compare ⟨"n", .ascending⟩ (numbered (.float ⟨true, 0, by decide⟩ rfl))
          (numbered (.integer 0 (by decide))) = .lt ∧
      compare (Number.value (.float ⟨true, 0, by decide⟩ rfl))
        (Number.value (.integer 0 (by decide))) = .eq) := by
  refine ⟨⟨by decide, ?_⟩, by decide, ?_⟩
  · rw [value_leastRounded, compare_gt_iff_gt]
    norm_num [Number.value]
  · rw [compare_eq_iff_eq]
    norm_num [Number.value, Binary64.value, Binary64.significand, Width.significand, Width.binade]

end RecordQuery
