import RecordQuery.Query.Run
import RecordQuery.Proofs.Results
/-!
# What a query finds

Matching stops at the first record on which the filter fails. If it fails on
none, the records that are found are those that pass, in the order they came in
(`Query.matching_eq_ok`), and a query returns a window of them, sorted
(`Query.run_of_verdicts`).
-/

namespace RecordQuery

open Json

/-- Sorting keeps every record, each as often as it is there. -/
theorem Query.sort_perm (sorting : Sorting) (records : List Value) :
    (sort sorting records).Perm records := by
  rw [sort]
  split
  · exact List.Perm.refl records
  · exact List.mergeSort_perm records _

variable [PatternEngine]

/-- Whether a filter holds of a record. -/
def PreparedFilter.passes (p : PreparedFilter) (v : Value) : Bool :=
  p.verdict (.document v) matches .ok true

namespace Query

variable {p : PreparedFilter} {q : Query} {config : Config} {records found : List Value}

/-- **Records are found when the filter fails on none of them.** -/
theorem matching_eq_ok (number : Nat) :
    matching p number records = .ok found ↔
      (∀ v ∈ records, ∃ b, p.verdict (.document v) = .ok b) ∧ found = records.filter p.passes := by
  induction records generalizing number found with
  | nil =>
    have hnil : matching p number [] = .ok found ↔ found = [] := by
      rw [matching, Except.ok.injEq]
      exact eq_comm
    rw [hnil, List.filter_nil]
    exact (and_iff_right nofun).symm
  | cons v rest ih =>
    rw [matching, List.forall_mem_cons]
    cases hv : p.verdict (.document v) with
    | error e =>
      refine iff_of_false nofun ?_
      rintro ⟨⟨⟨b, hb⟩, -⟩, -⟩
      cases hb
    | ok keep =>
      have hpasses : p.passes v = keep := by
        rw [PreparedFilter.passes, hv]
        cases keep <;> rfl
      rw [List.filter_cons, hpasses]
      constructor
      · intro h
        obtain ⟨others, hothers, h⟩ := bind_eq_ok h
        obtain ⟨hrest, rfl⟩ := (ih (number + 1)).1 hothers
        cases h
        exact ⟨⟨⟨keep, rfl⟩, hrest⟩, rfl⟩
      · rintro ⟨⟨-, hrest⟩, rfl⟩
        have hothers := (ih (number + 1)).2 ⟨hrest, rfl⟩
        simp only [hothers]
        rfl

/-- All that a query finds, in its order. -/
def answer (q : Query) (records : List Value) : List Value :=
  sort q.sorting (records.filter q.filter.passes)

/-- **A query returns a window of its answer.** -/
theorem run_of_verdicts (h : ∀ v ∈ records, ∃ b, q.filter.verdict (.document v) = .ok b) :
    q.run config records =
      .ok (window q.pagination config (q.answer records),
        q.pagination.next config (window q.pagination config (q.answer records)).length) := by
  rw [run, (matching_eq_ok 1).2 ⟨h, rfl⟩]
  rfl

end Query

end RecordQuery
