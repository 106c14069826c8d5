import RecordQuery.Proofs.Query.Outcome
/-!
# A page that is queried again

Records that pass and stand in the order of a query are the answer of the query to
themselves (`Query.answer_of_sublist`), and so is the page at the beginning of
any answer. Querying it again gives the same page, and what comes with it
(`Query.run_page`): how much a page holds does not depend on what is left out.
-/

namespace RecordQuery

open Json

namespace Query

/-- Records that are in order are sorted as they are. -/
theorem sort_of_ordered {records : List Value} {s : Sorting}
    (h : records.Pairwise fun v w => s.compareDocuments v w ≠ .gt) : sort s records = records :=
  (sorts_sort s records).unique ⟨.refl records, h, fun _ => rfl⟩

section

variable [PatternEngine] {q : Query} {config : Config} {records page : List Value}
variable {info : PageInfo}

/-- What is found is found again, since it passed. -/
theorem passes_of_mem_answer {v : Value} (h : v ∈ q.answer records) :
    q.filter.passes v = true :=
  (List.mem_filter.1 ((sort_perm _ _).mem_iff.1 h)).2

/-- **Any part of an answer is its own answer**, if its records stand as they
did. -/
theorem answer_of_sublist (h : page.Sublist (q.answer records)) : q.answer page = page := by
  have hpasses : page.filter q.filter.passes = page :=
    List.filter_eq_self.2 fun v hv => passes_of_mem_answer (h.subset hv)
  have hordered : page.Pairwise fun v w => q.sorting.compareDocuments v w ≠ .gt :=
    (sorts_sort q.sorting (records.filter q.filter.passes)).ordered.sublist h
  rw [answer, hpasses, sort_of_ordered hordered]

/-- A record that passes is not one that the filter fails on. -/
theorem exists_verdict_of_passes {p : PreparedFilter} {v : Value} (h : p.passes v = true) :
    ∃ b, p.verdict (.document v) = .ok b := by
  rw [PreparedFilter.passes] at h
  split at h
  · next heq => exact ⟨true, heq⟩
  · cases h

/-- **The first page is the first page of its own records**, with the same
information. -/
theorem run_page (hoffset : q.pagination.offset = 0)
    (h : q.run config records = .ok (page, info)) : q.run config page = .ok (page, info) := by
  have hwindow (found : List Value) : window q.pagination config found =
      found.take (q.pagination.effectiveLimit config).toNat := by
    rw [window, hoffset]
    rfl
  obtain ⟨-, hpage, rfl⟩ := run_eq_ok.1 h
  rw [hwindow] at hpage
  have hsublist : page.Sublist (q.answer records) := hpage ▸ List.take_sublist _ _
  refine run_eq_ok.2 ⟨fun v hv => ?_, ?_, rfl⟩
  · exact exists_verdict_of_passes (passes_of_mem_answer (hsublist.subset hv))
  · have hlength : page.length ≤ (q.pagination.effectiveLimit config).toNat := by
      rw [hpage]
      exact List.length_take_le _ _
    rw [hwindow, answer_of_sublist hsublist, List.take_of_length_le hlength]

end

section

open Reference

/-- Records with a flag each, and a name to tell them apart by. -/
def namedFlags : List Value :=
  [("l", .bool true), ("m", .null), ("n", .bool true), ("k", .bool false)].map fun record =>
    .object [("a", record.2), ("name", .string record.1)]

/-- The two of them that come first downwards. They tie, so they keep their
order. -/
def raisedFlags : List Value :=
  ["l", "n"].map fun name => .object [("a", .bool true), ("name", .string name)]

/-- The raised flags are a page that is given back when it is queried again. -/
theorem pairsQuery_page :
    pairsQuery.pagination.offset = 0 ∧
      pairsQuery.run .standard namedFlags = .ok (raisedFlags, ⟨"", 2, 2⟩) ∧
      pairsQuery.run .standard raisedFlags = .ok (raisedFlags, ⟨"", 2, 2⟩) := by
  have hverdicts : ∀ v ∈ namedFlags, ∃ b, pairsQuery.filter.verdict (.document v) = .ok b := by
    simp only [namedFlags, List.map_cons, List.map_nil, List.forall_mem_cons]
    exact ⟨⟨true, rfl⟩, ⟨false, rfl⟩, ⟨true, rfl⟩, ⟨true, rfl⟩, nofun⟩
  -- the record without a flag is left out, and the others are in order already
  have hanswer : pairsQuery.answer namedFlags = namedFlags.filter pairsQuery.filter.passes :=
    sort_of_ordered (by decide)
  have hrun : pairsQuery.run .standard namedFlags = .ok (raisedFlags, ⟨"", 2, 2⟩) := by
    refine run_eq_ok.2 ⟨hverdicts, ?_, rfl⟩
    rw [hanswer]
    rfl
  exact ⟨rfl, hrun, run_page rfl hrun⟩

end

end Query

end RecordQuery
