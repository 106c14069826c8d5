import Mathlib.Data.List.Find
import RecordQuery.Proofs.Filter.Compilation
/-!
# The verdict of a filter from the verdicts of its conditions

A filter says of a record what its conditions say one by one. If a pattern does
not compile, the leftmost such one is reported, whatever the record is;
otherwise the leftmost condition that fails alone decides; otherwise the verdict
is the value of the filter as a formula (`evaluate_settled`). Connectives and
negations decide nothing before that: they come into the formula only. Of
patterns nothing is used but that a text compiles, or does not, whenever it is
asked: that is what an engine is.
-/

namespace RecordQuery

open PatternEngine (compile)

variable [PatternEngine] {patterns : Patterns} {r : Record} {c : Condition} {f : Filter}

/-! ## Conditions on their own -/

/-- The condition without its negation. -/
def Condition.plain (c : Condition) : Condition := { c with negated := false }

/-- Whether a condition that is asked alone fails. -/
def Condition.failsAlone (r : Record) (c : Condition) : Bool :=
  fails (evaluate (some (.condition c)) r)

/-- Whether a condition that is asked alone holds. -/
def Condition.holdsAlone (r : Record) (c : Condition) : Bool :=
  evaluate (some (.condition c)) r matches .ok true

/-- A pattern at hand says what it says when it is compiled now. -/
theorem Test.holds_of_lookup {t : Test}
    (h : ∀ s, t = .like s → ∃ e, patterns.lookup s = some e ∧ compile s = .ok e)
    (v : FieldValue) : t.holds patterns v = t.holds [] v := by
  cases t with
  | like s =>
    obtain ⟨e, hlookup, hcompile⟩ := h s rfl
    simp only [holds, hlookup, List.lookup_nil, compilePattern_of_ok hcompile]
    rfl
  | equals value => rfl
  | compares comparison number => rfl
  | isNull => rfl

/-- A test whose pattern compiles can always be made, though it may not suit the value. -/
theorem Test.exists_holds {t : Test} (h : ∀ s, t = .like s → ∃ e, compile s = .ok e)
    (v : FieldValue) : ∃ outcome, t.holds [] v = .ok outcome := by
  cases t with
  | like s =>
    obtain ⟨e, he⟩ := h s rfl
    simp only [holds, List.lookup_nil, compilePattern_of_ok he]
    split <;> exact ⟨_, rfl⟩
  | equals value =>
    simp only [holds]
    split <;> exact ⟨_, rfl⟩
  | compares comparison number =>
    simp only [holds]
    split
    · exact ⟨_, rfl⟩
    · split <;> exact ⟨_, rfl⟩
  | isNull =>
    simp only [holds]
    split <;> exact ⟨_, rfl⟩

namespace Condition

theorem verdict_of_keep {texts : List String} (h : patterns.Keep texts)
    (hc : ∀ s, c.pattern? = some s → s ∈ texts) (r : Record) :
    c.verdict patterns r = c.verdict [] r := by
  have hholds := Test.holds_of_lookup fun s hs => h.lookup (hc s (pattern?_eq_some.2 hs))
  simp only [verdict, hholds]

/-- **A condition whose pattern compiles can only fail by a mismatch** at its
own path. -/
theorem eq_mismatch_of_verdict {e : EvalError} (hc : c.isBroken = false)
    (h : c.verdict [] r = .error e) : ∃ cause, e = .mismatch c.path cause := by
  rw [verdict] at h
  split at h
  · cases h
    exact ⟨_, rfl⟩
  · next v _ =>
    have hcompile : ∀ s, c.test = .like s → ∃ e, compile s = .ok e :=
      fun s hs => isBroken_eq_false.1 hc s (pattern?_eq_some.2 hs)
    obtain ⟨outcome, houtcome⟩ := Test.exists_holds hcompile v
    rw [houtcome] at h
    cases outcome with
    | error cause =>
      cases h
      exact ⟨_, rfl⟩
    | ok b => cases h

/-- A negation turns the verdict, and leaves a failure as it is. -/
theorem verdict_plain (patterns : Patterns) (r : Record) (c : Condition) :
    c.verdict patterns r = (c.plain.verdict patterns r).map (· != c.negated) := by
  simp only [verdict, plain]
  cases r.resolve c.path with
  | error cause => rfl
  | ok v =>
    dsimp only
    rcases c.test.holds patterns v with e | (cause | b)
    · rfl
    · rfl
    · cases b <;> rfl

/-- A condition does not fail without its negation if it does not fail with it. -/
theorem exists_plain_verdict {b : Bool} (h : c.verdict patterns r = .ok b) :
    ∃ b, c.plain.verdict patterns r = .ok b := by
  rw [verdict_plain] at h
  cases hplain : c.plain.verdict patterns r with
  | error e =>
    rw [hplain] at h
    cases h
  | ok a => exact ⟨a, rfl⟩

@[simp] theorem isBroken_plain (c : Condition) : c.plain.isBroken = c.isBroken := rfl

end Condition

/-! ## Trees of conditions -/

namespace Filter

/-- The truth of a filter as a formula, given the truth of its conditions
without their negations. -/
def formula (holds : Condition → Bool) : Filter → Bool
  | condition c => holds c.plain != c.negated
  | junction connective left right negated =>
    connective.apply (left.formula holds) (right.formula holds) != negated

theorem verdict_of_keep (h : patterns.Keep f.patternTexts) (r : Record) :
    f.verdict patterns r = f.verdict [] r := by
  have hcondition : ∀ c ∈ f.conditions, c.verdict patterns r = c.verdict [] r := fun c hc =>
    Condition.verdict_of_keep h (fun s hs => List.mem_filterMap.2 ⟨c, hc, hs⟩) r
  clear h
  induction f with
  | condition c => exact hcondition c List.mem_cons_self
  | junction connective left right negated ihl ihr =>
    rw [conditions_junction, List.forall_mem_append] at hcondition
    rw [verdict, verdict, ihl hcondition.1, ihr hcondition.2]

/-- **A filter whose conditions do not fail has the truth of its formula.** -/
theorem verdict_eq_formula {holds : Condition → Bool}
    (h : ∀ c ∈ f.conditions, c.plain.verdict patterns r = .ok (holds c.plain)) :
    f.verdict patterns r = .ok (f.formula holds) := by
  induction f with
  | condition c =>
    rw [verdict, Condition.verdict_plain, h c List.mem_cons_self]
    rfl
  | junction connective left right negated ihl ihr =>
    rw [conditions_junction, List.forall_mem_append] at h
    rw [verdict, ihl h.1, ihr h.2]
    rfl

theorem exists_verdict (h : f.conditions.find? (fun c => fails (c.verdict patterns r)) = none) :
    ∃ b, f.verdict patterns r = .ok b := by
  have hok : ∀ c ∈ f.conditions, ∃ b, c.verdict patterns r = .ok b := fun c hc =>
    fails_eq_false.1 (Bool.not_eq_true _ ▸ List.find?_eq_none.1 h c hc)
  clear h
  induction f with
  | condition c => exact hok c List.mem_cons_self
  | junction connective left right negated ihl ihr =>
    rw [conditions_junction, List.forall_mem_append] at hok
    obtain ⟨a, ha⟩ := ihl hok.1
    obtain ⟨b, hb⟩ := ihr hok.2
    exact ⟨_, by rw [verdict, ha, hb]; rfl⟩

/-- **The leftmost condition that fails is what a filter fails by**, whatever
connectives and negations are above it and whatever has been decided before. -/
theorem verdict_eq_leftmost
    (h : f.conditions.find? (fun c => fails (c.verdict patterns r)) = some c) :
    f.verdict patterns r = c.verdict patterns r := by
  induction f with
  | condition d =>
    obtain rfl := List.mem_singleton.1 (List.mem_of_find?_eq_some h)
    rfl
  | junction connective left right negated ihl ihr =>
    have hfails := List.find?_some h
    obtain ⟨e, he⟩ := fails_eq_true.1 hfails
    rw [conditions_junction, List.find?_append, Option.or_eq_some_iff] at h
    rcases h with hl | ⟨hl, hr⟩
    · rw [verdict, ihl hl, he]
      rfl
    · -- the left side has its verdict, and the right side is evaluated all the same
      obtain ⟨a, ha⟩ := exists_verdict hl
      rw [verdict, ha, ihr hr, he]
      rfl

end Filter

/-! ## Evaluation -/

/-- Without broken patterns nothing depends on what is compiled beforehand. -/
theorem evaluate_eq_verdict (h : f.conditions.find? Condition.isBroken = none) (r : Record) :
    evaluate (some f) r = f.verdict [] r := by
  obtain ⟨patterns, hpatterns, hkeep⟩ := Filter.patterns_keep h
  rw [evaluate, hpatterns]
  exact Filter.verdict_of_keep hkeep r

theorem evaluate_condition (hc : c.isBroken = false) (r : Record) :
    evaluate (some (.condition c)) r = c.verdict [] r := by
  have hfind : (Filter.condition c).conditions.find? Condition.isBroken = none :=
    List.find?_eq_none.2 (List.forall_mem_singleton.2 (Bool.not_eq_true _ ▸ hc))
  exact evaluate_eq_verdict hfind r

/-- The leftmost broken pattern is reported for every record. -/
theorem evaluate_of_broken (h : f.conditions.find? Condition.isBroken = some c) (r : Record) :
    ∃ s report, c.test = .like s ∧ compile s = .error report ∧
      evaluate (some f) r = .error (.invalidPattern report) := by
  obtain ⟨s, report, hs, hcompile, hpatterns⟩ := Filter.patterns_broken h
  refine ⟨s, report, Condition.pattern?_eq_some.1 hs, hcompile, ?_⟩
  rw [evaluate, hpatterns]
  rfl

theorem Condition.failsAlone_eq (hc : c.isBroken = false) (r : Record) :
    c.failsAlone r = fails (c.verdict [] r) :=
  congrArg fails (evaluate_condition hc r)

/-- A condition that does not fail holds alone, without its negation, or does not. -/
theorem Condition.verdict_plain_eq_holdsAlone (hc : c.isBroken = false)
    (hfails : c.failsAlone r = false) : c.plain.verdict [] r = .ok (c.plain.holdsAlone r) := by
  rw [failsAlone_eq hc, fails_eq_false] at hfails
  obtain ⟨b, hb⟩ := hfails
  obtain ⟨a, ha⟩ := exists_plain_verdict hb
  have hplain : evaluate (some (.condition c.plain)) r = .ok a :=
    (evaluate_condition (c.isBroken_plain.trans hc) r).trans ha
  rw [ha, holdsAlone, hplain]
  cases a <;> rfl

/-- **What a filter says of a record, settled.** A pattern that does not compile
comes before everything else; then a condition that fails alone; and then the
truth of the formula. In the first two cases the leftmost such condition
decides, and the error is the engine's report of its pattern, or names its path. -/
theorem evaluate_settled (f : Filter) (r : Record) :
    (∀ c, f.conditions.find? Condition.isBroken = some c →
      ∃ s report, c.test = .like s ∧ compile s = .error report ∧
        evaluate (some f) r = .error (.invalidPattern report)) ∧
    (f.conditions.find? Condition.isBroken = none →
      (∀ c, f.conditions.find? (Condition.failsAlone r) = some c →
        ∃ cause, evaluate (some (.condition c)) r = .error (.mismatch c.path cause) ∧
          evaluate (some f) r = .error (.mismatch c.path cause)) ∧
      (f.conditions.find? (Condition.failsAlone r) = none →
        evaluate (some f) r = .ok (f.formula (Condition.holdsAlone r)))) := by
  refine ⟨fun c hc => evaluate_of_broken hc r, fun hsound => ?_⟩
  have hsoundAt : ∀ c ∈ f.conditions, c.isBroken = false := fun c hc =>
    Bool.not_eq_true _ ▸ List.find?_eq_none.1 hsound c hc
  rw [evaluate_eq_verdict hsound]
  refine ⟨fun c hc => ?_, fun hnone => ?_⟩
  · have hfails := List.find?_some hc
    have hcsound := hsoundAt c (List.mem_of_find?_eq_some hc)
    -- alone, a condition has the verdict that it has inside the filter
    rw [List.find?_congr fun d hd => Condition.failsAlone_eq (hsoundAt d hd) r] at hc
    obtain ⟨e, he⟩ := fails_eq_true.1 hfails
    rw [evaluate_condition hcsound] at he ⊢
    obtain ⟨cause, rfl⟩ := Condition.eq_mismatch_of_verdict hcsound he
    exact ⟨cause, he, (Filter.verdict_eq_leftmost hc).trans he⟩
  · refine Filter.verdict_eq_formula fun c hc => ?_
    have hfails : c.failsAlone r = false := Bool.not_eq_true _ ▸ List.find?_eq_none.1 hnone c hc
    exact Condition.verdict_plain_eq_holdsAlone (hsoundAt c hc) hfails

end RecordQuery
