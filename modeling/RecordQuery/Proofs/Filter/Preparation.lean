import Mathlib.Data.List.Dedup
import RecordQuery.Proofs.Filter.Compilation
/-!
# Prepared filters

A filter can be prepared when all its patterns compile, and says then of every
record what it would say without preparation. All its patterns are at hand, each
different text once, so none is compiled again. A filter that cannot be prepared
fails on every record, by the error that its preparation fails by.
-/

namespace RecordQuery

open PatternEngine (compile)

/-- The patterns of a filter from left to right, if there is a filter. -/
def patternTextsOf (filter : Option Filter) : List String := filter.elim [] Filter.patternTexts

variable [PatternEngine] {filter : Option Filter} {patterns : Patterns}

/-! ## Compiling all patterns -/

/-- Patterns that keep some texts are as many as there are different texts. -/
theorem Patterns.Keep.length_eq {texts : List String} (h : patterns.Keep texts) :
    patterns.length = texts.dedup.length := by
  have hperm : (patterns.map Prod.fst).Perm texts.dedup := by
    refine (List.perm_ext_iff_of_nodup h.nodup (List.nodup_dedup texts)).2 fun s => ?_
    rw [h.mem, List.mem_dedup]
  rw [← hperm.length_eq, List.length_map]

/-- No condition is broken if all patterns compile. -/
theorem Filter.find?_isBroken_eq_none {f : Filter} :
    f.conditions.find? Condition.isBroken = none ↔
      ∀ s ∈ f.patternTexts, ∃ e, compile s = .ok e := by
  simp only [List.find?_eq_none, Bool.not_eq_true, Condition.isBroken_eq_false, patternTexts,
    List.mem_filterMap]
  constructor
  · rintro h s ⟨c, hc, hs⟩
    exact h c hc s hs
  · intro h c hc s hs
    exact h s ⟨c, hc, hs⟩

theorem patternsOf_keep (h : ∀ s ∈ patternTextsOf filter, ∃ e, compile s = .ok e) :
    ∃ patterns : Patterns, patternsOf filter = .ok patterns ∧
      patterns.Keep (patternTextsOf filter) := by
  cases filter with
  | none => exact ⟨[], rfl, Patterns.keep_nil⟩
  | some f => exact Filter.patterns_keep (Filter.find?_isBroken_eq_none.2 h)

theorem patternsOf_broken (h : ¬ ∀ s ∈ patternTextsOf filter, ∃ e, compile s = .ok e) :
    ∃ s ∈ patternTextsOf filter, ∃ report, compile s = .error report ∧
      patternsOf filter = .error (.invalidPattern report) := by
  cases filter with
  | none => exact absurd nofun h
  | some f =>
    have hfind : f.conditions.find? Condition.isBroken ≠ none :=
      fun hnone => h (Filter.find?_isBroken_eq_none.1 hnone)
    obtain ⟨c, hc⟩ := Option.ne_none_iff_exists'.1 hfind
    obtain ⟨s, report, hs, hcompile, hpatterns⟩ := Filter.patterns_broken hc
    have hmem : s ∈ f.patternTexts := List.mem_filterMap.2 ⟨c, List.mem_of_find?_eq_some hc, hs⟩
    exact ⟨s, hmem, report, hcompile, hpatterns⟩

/-! ## Evaluating with what was compiled -/

theorem evaluate_of_error {e : EvalError} (h : patternsOf filter = .error e) (r : Record) :
    evaluate filter r = .error e := by
  cases filter with
  | none => cases h
  | some f =>
    change f.patterns = .error e at h
    rw [evaluate, h]
    rfl

namespace PreparedFilter

/-- **Preparing a filter changes no verdict.** -/
theorem verdict_eq_evaluate (p : PreparedFilter) (r : Record) :
    p.verdict r = evaluate p.filter r := by
  obtain ⟨filter, patterns, hpatterns⟩ := p
  cases filter with
  | none => rfl
  | some f =>
    change f.patterns = .ok patterns at hpatterns
    rw [evaluate, hpatterns]
    rfl

theorem prepare_of_ok (h : patternsOf filter = .ok patterns) :
    prepare filter = .ok ⟨filter, patterns, h⟩ := by
  rw [prepare]
  split
  · next h' => cases h'.symm.trans h
  · next h' =>
    cases h'.symm.trans h
    rfl

theorem prepare_of_error {e : EvalError} (h : patternsOf filter = .error e) :
    prepare filter = .error e := by
  rw [prepare]
  split
  · next h' =>
    cases h'.symm.trans h
    rfl
  · next h' => cases h'.symm.trans h

/-- **When a filter can be prepared, and what that gives.** It can when all its
patterns compile. Then it has the verdicts that it has without preparation, and
every pattern it needs is at hand, as many as are different; otherwise it has no
verdict on any record, for the reason that it cannot be prepared for. -/
theorem prepare_settled (filter : Option Filter) :
    ((∃ p, prepare filter = .ok p) ↔
      ∀ s ∈ patternTextsOf filter, ∃ e, compile s = .ok e) ∧
    (∀ p, prepare filter = .ok p →
      (∀ r, p.verdict r = evaluate filter r) ∧
      (∀ s ∈ patternTextsOf filter,
        ∃ e, p.patterns.lookup s = some e ∧ compile s = .ok e) ∧
      p.patternCount = (patternTextsOf filter).dedup.length) ∧
    (∀ e, prepare filter = .error e →
      (∃ s ∈ patternTextsOf filter, ∃ report, compile s = .error report ∧
        e = .invalidPattern report) ∧
      ∀ r, evaluate filter r = .error e) := by
  by_cases h : ∀ s ∈ patternTextsOf filter, ∃ e, compile s = .ok e
  · obtain ⟨patterns, hpatterns, hkeep⟩ := patternsOf_keep h
    rw [prepare_of_ok hpatterns]
    refine ⟨iff_of_true ⟨_, rfl⟩ h, ?_, nofun⟩
    rintro p ⟨⟩
    exact ⟨verdict_eq_evaluate _, fun s hs => hkeep.lookup hs, hkeep.length_eq⟩
  · obtain ⟨s, hs, report, hcompile, hpatterns⟩ := patternsOf_broken h
    rw [prepare_of_error hpatterns]
    refine ⟨iff_of_false nofun h, nofun, ?_⟩
    rintro e ⟨⟩
    exact ⟨⟨s, hs, report, hcompile, rfl⟩, evaluate_of_error hpatterns⟩

end PreparedFilter

end RecordQuery
