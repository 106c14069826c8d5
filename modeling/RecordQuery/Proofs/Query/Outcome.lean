import RecordQuery.Proofs.Query.Pages
import RecordQuery.Proofs.Query.Stability
/-!
# What running a query gives

A query fails exactly when its filter fails on a record, and names the first such
record by its number, wherever the page would have been
(`Query.matching_eq_error`). Otherwise its page is a window of the records that
pass, sorted stably. `Query.run_settled` says both of every query.
-/

namespace RecordQuery

open Json

/-! ## How much a page holds -/

theorem Config.effectiveLimit_le (c : Config) (requested : UInt32) :
    c.effectiveLimit requested ≤ c.maxLimit := by
  rw [effectiveLimit]
  split
  · exact Std.min_le_right
  · exact Std.min_le_right

/-- What comes with a page counts its records. -/
theorem Pagination.size_next (p : Pagination) (c : Config) (returned : Nat) :
    (p.next c returned).size = clampedWord returned := by
  rw [next]
  split
  · rfl
  · rfl

namespace Query

theorem length_window_le (pagination : Pagination) (config : Config) (records : List Value) :
    (window pagination config records).length ≤ config.maxLimit.toNat := by
  have hlimit := UInt32.le_iff_toNat_le.1 (config.effectiveLimit_le pagination.limit)
  rw [window, List.length_take]
  exact Nat.le_trans (Nat.min_le_left _ _) hlimit

section

variable [PatternEngine] {p : PreparedFilter} {q : Query} {config : Config}
variable {records rest page : List Value} {v : Value} {n : Nat} {e : EvalError}
variable {info : PageInfo} {cause : QueryError}

/-! ## Failing -/

/-- A filter fails on the record behind the first `n`, and on none of those. -/
structure FirstFailure (p : PreparedFilter) (records : List Value) (n : Nat) (e : EvalError) :
    Prop where
  failure : ∃ v, records[n]? = some v ∧ p.verdict (.document v) = .error e
  before : ∀ v ∈ records.take n, ∃ b, p.verdict (.document v) = .ok b

/-- A failure on the first record is the first one. -/
theorem firstFailure_cons_of_error {e' : EvalError} (hv : p.verdict (.document v) = .error e) :
    FirstFailure p (v :: rest) n e' ↔ n = 0 ∧ e' = e := by
  constructor
  · rintro ⟨⟨w, hw, he⟩, hbefore⟩
    cases n with
    | zero =>
      cases hw
      rw [hv] at he
      cases he
      exact ⟨rfl, rfl⟩
    | succ n =>
      obtain ⟨b, hb⟩ := hbefore v List.mem_cons_self
      rw [hv] at hb
      cases hb
  · rintro ⟨rfl, rfl⟩
    exact ⟨⟨v, rfl, hv⟩, nofun⟩

/-- A failure behind a record that does not fail is the first one on the rest. -/
theorem firstFailure_cons_of_ok {b : Bool} (hv : p.verdict (.document v) = .ok b) :
    FirstFailure p (v :: rest) n e ↔ ∃ m, n = m + 1 ∧ FirstFailure p rest m e := by
  constructor
  · rintro ⟨⟨w, hw, he⟩, hbefore⟩
    cases n with
    | zero =>
      cases hw
      rw [hv] at he
      cases he
    | succ m => exact ⟨m, rfl, ⟨w, hw, he⟩, fun u hu => hbefore u (List.mem_cons_of_mem v hu)⟩
  · rintro ⟨m, rfl, ⟨w, hw, he⟩, hbefore⟩
    refine ⟨⟨w, hw, he⟩, ?_⟩
    rw [List.take_succ_cons, List.forall_mem_cons]
    exact ⟨⟨b, hv⟩, hbefore⟩

/-- **Matching fails with the first record that the filter fails on**, by its
number. -/
theorem matching_eq_error (number : Nat) :
    matching p number records = .error cause ↔
      ∃ n e, FirstFailure p records n e ∧ cause = .evaluation (number + n) e := by
  induction records generalizing number with
  | nil =>
    refine iff_of_false nofun ?_
    rintro ⟨n, e, ⟨⟨v, hv, -⟩, -⟩, -⟩
    cases hv
  | cons v rest ih =>
    rw [matching]
    cases hv : p.verdict (.document v) with
    | error e =>
      simp only [firstFailure_cons_of_error hv, Except.error.injEq]
      constructor
      · rintro rfl
        exact ⟨0, e, ⟨rfl, rfl⟩, rfl⟩
      · rintro ⟨n, e', ⟨rfl, rfl⟩, rfl⟩
        rfl
    | ok keep =>
      -- the rest fails as it would alone, with one record more before it
      simp only [firstFailure_cons_of_ok hv, bind_return_eq_error, ih]
      constructor
      · rintro ⟨n, e, h, rfl⟩
        exact ⟨n + 1, e, ⟨n, rfl, h⟩, by rw [Nat.add_assoc, Nat.add_comm 1]⟩
      · rintro ⟨_, e, ⟨n, rfl, h⟩, rfl⟩
        exact ⟨n, e, h, by rw [Nat.add_assoc, Nat.add_comm 1]⟩

/-! ## The whole run -/

/-- Whatever fails, matching fails first. -/
theorem run_eq_error :
    q.run config records = .error cause ↔ matching q.filter 1 records = .error cause := by
  rw [run]
  exact bind_return_eq_error

/-- A query gives a window of its answer, unless the filter fails on a
record. -/
theorem run_eq_ok :
    q.run config records = .ok (page, info) ↔
      (∀ v ∈ records, ∃ b, q.filter.verdict (.document v) = .ok b) ∧
      page = window q.pagination config (q.answer records) ∧
      info = q.pagination.next config page.length := by
  constructor
  · intro h
    have hverdicts : ∀ v ∈ records, ∃ b, q.filter.verdict (.document v) = .ok b := by
      rw [run] at h
      obtain ⟨found, hfound, -⟩ := bind_eq_ok h
      exact ((matching_eq_ok 1).1 hfound).1
    rw [run_of_verdicts hverdicts] at h
    cases h
    exact ⟨hverdicts, rfl, rfl⟩
  · rintro ⟨hverdicts, rfl, rfl⟩
    exact run_of_verdicts hverdicts

/-- The list that is sorted, and the only one. -/
theorem sorts_iff_answer {sorted : List Value} :
    Sorts q.sorting.compareDocuments (records.filter q.filter.passes) sorted ↔
      sorted = q.answer records := by
  have hsorts : Sorts q.sorting.compareDocuments _ (q.answer records) :=
    sorts_sort q.sorting (records.filter q.filter.passes)
  constructor
  · exact fun h => h.unique hsorts
  · rintro rfl
    exact hsorts

/-- **Running a query.** It fails exactly with the first record that the filter
fails on. Otherwise its page is cut out of the records that pass, sorted
stably, or as they came where nothing is to be sorted by. The page is
counted, and no longer than the greatest limit. -/
theorem run_settled (q : Query) (config : Config) (records : List Value) :
    (∀ cause, q.run config records = .error cause ↔
      ∃ n e, FirstFailure q.filter records n e ∧ cause = .evaluation (n + 1) e) ∧
    (∀ page info, q.run config records = .ok (page, info) ↔
      (∀ v ∈ records, ∃ b, q.filter.verdict (.document v) = .ok b) ∧
      (∃ sorted, Sorts q.sorting.compareDocuments (records.filter q.filter.passes) sorted ∧
        (q.sorting.criteria = [] → sorted = records.filter q.filter.passes) ∧
        page = (sorted.drop q.pagination.offset.toNat).take
          (q.pagination.effectiveLimit config).toNat) ∧
      info = q.pagination.next config page.length) ∧
    ∀ page info, q.run config records = .ok (page, info) →
      info.size.toNat = page.length ∧ page.length ≤ config.maxLimit.toNat := by
  refine ⟨fun cause => ?_, fun page info => ?_, fun page info h => ?_⟩
  · rw [run_eq_error, matching_eq_error]
    simp only [Nat.add_comm 1]
  · have hunsorted (h : q.sorting.criteria = []) :
        q.answer records = records.filter q.filter.passes := by
      rw [answer, sort, h]
      rfl
    simp only [run_eq_ok, sorts_iff_answer, exists_eq_left]
    exact and_congr_right fun _ => and_congr_left fun _ => (and_iff_right hunsorted).symm
  · obtain ⟨-, rfl, rfl⟩ := run_eq_ok.1 h
    have hlength := length_window_le q.pagination config (q.answer records)
    have hword := config.maxLimit.toNat_lt_size
    rw [Pagination.size_next, toNat_clampedWord]
    exact ⟨by omega, hlength⟩

end

section

open Reference

/-- A query for one record whose field is a text. -/
def textQuery : Query :=
  ⟨⟨some (.condition ⟨["a"], .equals "x", false⟩), [], rfl⟩, ⟨[]⟩, ⟨1, 0, ""⟩⟩

/-- The query fails on the third record, though the first one fills its page. -/
theorem textQuery_fails :
    FirstFailure textQuery.filter [.object [("a", .string "x")], .object [("a", .string "y")],
        .object [("a", .bool true)]] 2 (.mismatch ["a"] (.wrongKind .text "bool")) ∧
      textQuery.run .standard [.object [("a", .string "x")], .object [("a", .string "y")],
        .object [("a", .bool true)]] =
          .error (.evaluation 3 (.mismatch ["a"] (.wrongKind .text "bool"))) := by
  have hfailure : FirstFailure textQuery.filter [.object [("a", .string "x")],
      .object [("a", .string "y")], .object [("a", .bool true)]] 2
      (.mismatch ["a"] (.wrongKind .text "bool")) := by
    refine ⟨⟨_, rfl, rfl⟩, ?_⟩
    simp only [List.take_succ_cons, List.take_zero, List.forall_mem_cons]
    exact ⟨⟨true, rfl⟩, ⟨false, rfl⟩, nofun⟩
  exact ⟨hfailure, ((run_settled textQuery .standard _).1 _).2 ⟨2, _, hfailure, rfl⟩⟩

end

end Query

end RecordQuery
