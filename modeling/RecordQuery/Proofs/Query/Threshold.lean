import RecordQuery.Proofs.Filter.Comparisons
import RecordQuery.Proofs.Query.Stability
/-!
# Thresholds among sorted records

A filter compares numbers by their positions on the line, and sorting by their ranks,
which tell the two zeros apart, too, and otherwise agree
(`Binary64.rank_lt_of_position_lt`). So where a filter with `<`, `<=`, `>` or `>=` parts
two records with numbers, sorting by the same path puts them in the same order
(`compare_of_parted`), and the sorted records with numbers are cut at one place
(`threshold_cuts`).
-/

namespace RecordQuery

open Json

/-! ## Numbers -/

/-- **The order of all floating-point numbers refines their order on the line.** -/
theorem Binary64.rank_lt_of_position_lt {x y : Binary64} (h : x.position < y.position) :
    x.rank < y.rank := by
  simp only [position, rank] at h ⊢
  split_ifs at h ⊢ <;> omega

/-- The direction in which the numbers that an operator admits come first. -/
def TokenKind.leading : TokenKind → SortOrder
  | gt => .descending
  | ge => .descending
  | _ => .ascending

variable {k : TokenKind} {x y z : Binary64}

/-- A number that is admitted and one that is not stand on the two sides of the
threshold. -/
theorem TokenKind.totalCompare_of_admits (hk : k.isOrder)
    (hx : k.admits (compare x.position z.position) = true)
    (hy : k.admits (compare y.position z.position) = false) :
    x.totalCompare y = match k.leading with
      | .ascending => .lt
      | .descending => .gt := by
  rw [Binary64.totalCompare]
  have hbelow (h : x.position < y.position) : compare x.rank y.rank = .lt :=
    compare_lt_iff_lt.2 (Binary64.rank_lt_of_position_lt h)
  have habove (h : y.position < x.position) : compare x.rank y.rank = .gt :=
    compare_gt_iff_gt.2 (Binary64.rank_lt_of_position_lt h)
  rcases hk with rfl | rfl | rfl | rfl <;>
    simp only [admits, comparison, Comparison.admits_compare, reduceCtorEq, decide_false,
      Bool.bne_false, decide_eq_true_eq, decide_eq_false_iff_not] at hx hy
  · exact hbelow (by omega)
  · exact hbelow (by omega)
  · exact habove (by omega)
  · exact habove (by omega)

/-! ## Records -/

/-- Whether a path leads to a number. -/
def Record.hasNumber (r : Record) (path : List String) : Bool := (r.numberAt? path).isSome

variable {r : Record} {path : List String} {tag : String} {a b : Value} {order : SortOrder}

theorem Record.hasNumber_iff : r.hasNumber path = true ↔ ∃ y, r.numberAt? path = some y :=
  Option.isSome_iff_exists

/-- A record with a number is sorted by it. -/
theorem Record.sortKey_of_numberAt? (h : r.numberAt? (piecesOf '.' tag) = some y) :
    r.sortKey tag = .number y := by
  obtain ⟨v, hv, hy⟩ := numberAt?_eq_some.1 h
  rw [sortKey, keyAt_eq, hv]
  exact ((SortKey.ofField_iff v).2.2.2.1 y).2 hy

theorem Criterion.compare_of_numberAt? {r s : Record}
    (hr : r.numberAt? (piecesOf '.' tag) = some x) (hs : s.numberAt? (piecesOf '.' tag) = some y)
    (order : SortOrder) :
    Criterion.compare ⟨tag, order⟩ r s = match order with
      | .ascending => x.totalCompare y
      | .descending => (x.totalCompare y).swap := by
  rw [compare, Record.sortKey_of_numberAt? hr, Record.sortKey_of_numberAt? hs]
  rfl

section

variable [PatternEngine]

/-- A comparison by order holds of numbers only. -/
theorem hasNumber_of_evaluate (hk : k.isOrder)
    (h : evaluate (some (comparing path k x)) r = .ok true) : r.hasNumber path = true := by
  have hne : k ≠ .ne := by rcases hk with rfl | rfl | rfl | rfl <;> decide
  rcases evaluate_comparing_cases r path with hnumber | hmissing | ⟨e, he⟩
  · exact Record.hasNumber_iff.2 hnumber
  · rw [hmissing] at h
    exact absurd (of_decide_eq_true (Except.ok.inj h)) hne
  · rw [he] at h
    cases h

/-- **Where a threshold parts two records with numbers, sorting puts them in the same
order**: the one that the filter holds of comes first in the leading direction. -/
theorem compare_of_parted (hk : k.isOrder) (hx : x.isFinite = true)
    (ha : (Record.document a).hasNumber (piecesOf '.' tag) = true)
    (hb : (Record.document b).hasNumber (piecesOf '.' tag) = true)
    (hta : evaluate (some (comparing (piecesOf '.' tag) k x)) (.document a) = .ok true)
    (hfb : evaluate (some (comparing (piecesOf '.' tag) k x)) (.document b) = .ok false)
    (order : SortOrder) (rest : List Criterion) :
    Sorting.compareDocuments ⟨⟨tag, order⟩ :: rest⟩ a b =
      if order = k.leading then .lt else .gt := by
  obtain ⟨y, hy⟩ := Record.hasNumber_iff.1 ha
  obtain ⟨z, hz⟩ := Record.hasNumber_iff.1 hb
  rw [evaluate_comparing_of_number hx hy] at hta
  rw [evaluate_comparing_of_number hx hz] at hfb
  have htotal := TokenKind.totalCompare_of_admits hk (Except.ok.inj hta) (Except.ok.inj hfb)
  have hcriterion : Criterion.compare ⟨tag, order⟩ (.document a) (.document b) =
      if order = k.leading then .lt else .gt := by
    rw [Criterion.compare_of_numberAt? hy hz, htotal]
    cases order <;> cases k.leading <;> rfl
  rw [Sorting.compareDocuments, Sorting.compare, compareBy, hcriterion]
  split <;> rfl

end

/-! ## Cuts -/

/-- **A list is cut at one place** by a property that nothing has behind something that
does not have it. -/
theorem exists_cut {α : Type} {p : α → Bool} {l : List α}
    (h : l.Pairwise fun a b => p b = true → p a = true) :
    ∃ front back, l = front ++ back ∧ (∀ a ∈ front, p a = true) ∧ ∀ a ∈ back, p a = false := by
  induction l with
  | nil => exact ⟨[], [], rfl, nofun, nofun⟩
  | cons a l ih =>
    obtain ⟨hfirst, hrest⟩ := List.pairwise_cons.1 h
    cases ha : p a with
    | true =>
      obtain ⟨front, back, rfl, hfront, hback⟩ := ih hrest
      exact ⟨a :: front, back, rfl, List.forall_mem_cons.2 ⟨ha, hfront⟩, hback⟩
    | false =>
      -- then nothing behind it has the property
      refine ⟨[], a :: l, rfl, nofun, List.forall_mem_cons.2 ⟨ha, fun b hb => ?_⟩⟩
      rw [← Bool.not_eq_true]
      intro hpb
      exact nomatch ha.symm.trans (hfirst b hb hpb)

section

variable [PatternEngine]

/-- A threshold has a verdict on every record with a number. -/
theorem exists_evaluate_of_hasNumber (hx : x.isFinite = true)
    (h : (Record.document a).hasNumber path = true) :
    ∃ holds, evaluate (some (comparing path k x)) (.document a) = .ok holds := by
  obtain ⟨y, hy⟩ := Record.hasNumber_iff.1 h
  exact ⟨_, evaluate_comparing_of_number hx hy⟩

/-- What comes first in a direction holds of whatever is not behind something that it
holds of. -/
theorem evaluate_of_not_behind (hk : k.isOrder) (hx : x.isFinite = true)
    (ha : (Record.document a).hasNumber (piecesOf '.' tag) = true)
    (hb : (Record.document b).hasNumber (piecesOf '.' tag) = true)
    {rest : List Criterion} (hne : Sorting.compareDocuments ⟨⟨tag, order⟩ :: rest⟩ a b ≠ .gt)
    (hverdict : evaluate (some (comparing (piecesOf '.' tag) k x)) (.document b) =
      .ok (order = k.leading)) :
    evaluate (some (comparing (piecesOf '.' tag) k x)) (.document a) =
      .ok (order = k.leading) := by
  obtain ⟨holds, hholds⟩ := exists_evaluate_of_hasNumber (k := k) hx ha
  rw [hholds]
  by_contra hother
  -- otherwise the threshold parts the two, and they are in the wrong order
  refine hne ?_
  by_cases horder : order = k.leading
  · have hfalse : holds = false := by simpa [horder] using hother
    rw [decide_eq_true horder] at hverdict
    have hba := compare_of_parted hk hx hb ha hverdict (hfalse ▸ hholds) order rest
    rw [if_pos horder] at hba
    exact Std.OrientedCmp.gt_of_lt hba
  · have htrue : holds = true := by simpa [horder] using hother
    rw [decide_eq_false horder] at hverdict
    have hab := compare_of_parted hk hx ha hb (htrue ▸ hholds) hverdict order rest
    rwa [if_neg horder] at hab

/-- **Sorted records with numbers are cut at one place by a threshold**: in the leading
direction the filter holds of all before it and of none behind it, and in the other one
of all behind it and of none before it. -/
theorem Query.sort_cut (hk : k.isOrder) (hx : x.isFinite = true) (tag : String)
    (order : SortOrder) (rest : List Criterion) (records : List Value) :
    ∃ front back,
      (sort ⟨⟨tag, order⟩ :: rest⟩ records).filter
          (fun v => (Record.document v).hasNumber (piecesOf '.' tag)) = front ++ back ∧
        (∀ v ∈ front, evaluate (some (comparing (piecesOf '.' tag) k x)) (.document v) =
          .ok (order = k.leading)) ∧
        ∀ v ∈ back, evaluate (some (comparing (piecesOf '.' tag) k x)) (.document v) =
          .ok (order ≠ k.leading) := by
  have hordered := (sorts_sort ⟨⟨tag, order⟩ :: rest⟩ records).ordered.filter
    fun v => (Record.document v).hasNumber (piecesOf '.' tag)
  generalize hsorted : (sort ⟨⟨tag, order⟩ :: rest⟩ records).filter _ = sorted at hordered ⊢
  have hnumber : ∀ v ∈ sorted, (Record.document v).hasNumber (piecesOf '.' tag) = true := by
    intro v hv
    rw [← hsorted] at hv
    exact (List.mem_filter.1 hv).2
  obtain ⟨front, back, rfl, hfront, hback⟩ := exists_cut
    (p := fun v => decide (evaluate (some (comparing (piecesOf '.' tag) k x)) (.document v) =
      .ok (order = k.leading)))
    (hordered.imp_of_mem fun {a b} ha hb hne hverdict =>
      decide_eq_true (evaluate_of_not_behind hk hx (hnumber a ha) (hnumber b hb) hne
        (of_decide_eq_true hverdict)))
  refine ⟨front, back, rfl, fun v hv => of_decide_eq_true (hfront v hv), fun v hv => ?_⟩
  -- a record with a number has a verdict, so the other one
  obtain ⟨holds, hholds⟩ := exists_evaluate_of_hasNumber (k := k) hx
    (hnumber v (List.mem_append_right _ hv))
  have hother := of_decide_eq_false (hback v hv)
  rw [hholds] at hother ⊢
  by_cases horder : order = k.leading <;> simpa [horder] using hother

end

/-- **A threshold cuts sorted records at one place.** A filter that is read from a field,
one of `<`, `<=`, `>` and `>=`, and a number may hold of one record and not hold of
another one with a number under the field. Then sorting by the field in the leading
direction puts the one strictly before the other, and in the other direction strictly
behind it, whatever criteria come next. -/
theorem threshold_cuts [PatternEngine] {field literal text : String} {limit : Nat} {f : Filter}
    (hk : k.isOrder) (htext : Compares text field k literal)
    (hf : parseFilter limit text = .ok (some f)) (order : SortOrder) (rest : List Criterion) :
    (∀ a b : Value, evaluate (some f) (.document a) = .ok true →
      evaluate (some f) (.document b) = .ok false →
      (Record.document b).hasNumber (piecesOf '.' field) = true →
      Sorting.compareDocuments ⟨⟨field, order⟩ :: rest⟩ a b =
        if order = k.leading then .lt else .gt) ∧
    ∀ records, ∃ front back,
      (Query.sort ⟨⟨field, order⟩ :: rest⟩ records).filter
          (fun v => (Record.document v).hasNumber (piecesOf '.' field)) = front ++ back ∧
        (∀ v ∈ front, evaluate (some f) (.document v) = .ok (order = k.leading)) ∧
        ∀ v ∈ back, evaluate (some f) (.document v) = .ok (order ≠ k.leading) := by
  obtain ⟨hfinite, rfl⟩ := (parseFilter_compares (mem_numericOperators.2 (.inl hk)) htext).1 hf
  refine ⟨fun a b ha hb hnumber => ?_, Query.sort_cut hk hfinite field order rest⟩
  exact compare_of_parted hk hfinite (hasNumber_of_evaluate hk ha) hnumber ha hb order rest

/-- A document with a negative number. -/
def belowZero : Value := .object [("n", .number (.integer (-1) (by decide)))]

section

open Reference

/-- A filter for what is less than zero does not hold of a negative zero, which sorting
puts behind what it holds of. -/
theorem belowZero_cut :
    (TokenKind.isOrder .lt ∧ Compares (againstZero .lt) "n" .lt "0" ∧
      parseFilter 0 (againstZero .lt) =
        .ok (some (comparing (piecesOf '.' "n") .lt (literalValue "0".toList)))) ∧
    Sorting.compareDocuments ⟨[⟨"n", .ascending⟩]⟩ belowZero minusZero = .lt ∧
    ∃ front back,
      (Query.sort ⟨[⟨"n", .ascending⟩]⟩ [minusZero, belowZero]).filter
          (fun v => (Record.document v).hasNumber (piecesOf '.' "n")) = front ++ back ∧
        (∀ v ∈ front, evaluate (some (comparing (piecesOf '.' "n") .lt (literalValue "0".toList)))
          (.document v) = .ok true) ∧
        ∀ v ∈ back, evaluate (some (comparing (piecesOf '.' "n") .lt (literalValue "0".toList)))
          (.document v) = .ok false := by
  have hk : TokenKind.isOrder .lt := by decide
  have htext := againstZero_compares (k := .lt) rfl
  have hparse : parseFilter 0 (againstZero .lt) =
      .ok (some (comparing (piecesOf '.' "n") .lt (literalValue "0".toList))) :=
    (parseFilter_compares (by decide) htext).2 ⟨by decide, rfl⟩
  obtain ⟨hpair, hcut⟩ := threshold_cuts hk htext hparse .ascending []
  exact ⟨⟨hk, htext, hparse⟩, hpair belowZero minusZero (by decide) (by decide) (by decide),
    hcut [minusZero, belowZero]⟩

end

end RecordQuery
