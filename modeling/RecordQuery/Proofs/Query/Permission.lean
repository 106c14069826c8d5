import Mathlib.Logic.Basic
import RecordQuery.Query.Policy
import RecordQuery.Proofs.Results
/-!
# What a table permits

The checks of a table stop at the first thing that is not permitted. Here they
are said without an order: a filter passes when the policies of its fields
permit all its conditions (`PolicyTable.validateFilter_eq_ok`), and an order
when none of the policies of its tags forbids sorting
(`PolicyTable.validateSorting_eq_ok`).
-/

namespace RecordQuery

/-! ## Conditions and criteria -/

/-- A condition passes when the policy of its field permits it, if there is
one. -/
theorem checkCondition_eq_ok {o : ObjectPolicy} {c : Condition} :
    checkCondition o c = .ok () ↔ ∀ q, o.get? c.field = some q → q.check c = .ok () := by
  rw [checkCondition]
  cases o.get? c.field with
  | none => exact ⟨fun _ q hq => (nomatch hq), fun _ => rfl⟩
  | some p => exact ⟨fun h q hq => Option.some.inj hq ▸ h, fun h => h p rfl⟩

/-- A filter passes when its conditions do. -/
theorem checkFilter_eq_ok {o : ObjectPolicy} {g : Filter} :
    checkFilter o g = .ok () ↔ ∀ c ∈ g.conditions, checkCondition o c = .ok () := by
  induction g with
  | condition c => rw [checkFilter, Filter.conditions, List.forall_mem_singleton]
  | junction connective l r negated ihl ihr =>
    rw [Filter.conditions_junction, List.forall_mem_append, ← ihl, ← ihr, checkFilter]
    constructor
    · intro h
      obtain ⟨⟨⟩, hl, hr⟩ := bind_eq_ok h
      exact ⟨hl, hr⟩
    · rintro ⟨hl, hr⟩
      rw [hl, hr]
      rfl

/-- Criteria pass when sorting by their tags is not forbidden. -/
theorem checkCriteria_eq_ok {o : ObjectPolicy} {criteria : List Criterion} :
    checkCriteria o criteria = .ok () ↔
      ∀ c ∈ criteria, ∀ q, o.get? c.tag = some q → q.sortingDisabled = false := by
  induction criteria with
  | nil => exact ⟨fun _ c hc => absurd hc List.not_mem_nil, fun _ => rfl⟩
  | cons c rest ih =>
    rw [checkCriteria, List.forall_mem_cons, ← ih]
    cases hc : o.get? c.tag with
    | none => simp
    | some p => cases hp : p.sortingDisabled <;> simp [hp]

/-! ## Tables -/

namespace PolicyTable

variable {t : PolicyTable} {object : String} {g : Filter} {sorting : Option Sorting}

theorem field?_of_object? {o : ObjectPolicy} (h : t.object? object = some o) (name : String) :
    t.field? object name = o.get? name := by
  rw [field?, h]
  rfl

/-- No field of an object without policies has one. -/
theorem field?_of_none (h : t.object? object = none) (name : String) :
    t.field? object name = none := by
  rw [field?, h]
  rfl

/-- **A table permits a filter when the policies of its fields permit its
conditions.** -/
theorem validateFilter_eq_ok :
    t.validateFilter object g = .ok () ↔
      ∀ c ∈ g.conditions, ∀ q, t.field? object c.field = some q → q.check c = .ok () := by
  rw [validateFilter]
  cases ho : t.object? object with
  | none => simp only [field?_of_none ho, reduceCtorEq, false_implies, implies_true]
  | some o => simp only [checkFilter_eq_ok, checkCondition_eq_ok, field?_of_object? ho]

/-- **A table permits an order when sorting by its tags is not forbidden.** -/
theorem validateSorting_eq_ok {sorting : Sorting} :
    t.validateSorting object sorting = .ok () ↔
      ∀ c ∈ sorting.criteria, ∀ q, t.field? object c.tag = some q →
        q.sortingDisabled = false := by
  rw [validateSorting]
  cases ho : t.object? object with
  | none => simp only [field?_of_none ho, reduceCtorEq, false_implies, implies_true]
  | some o => simp only [checkCriteria_eq_ok, field?_of_object? ho]

theorem validateFilter_of_validate (h : t.validate object (some g) sorting = .ok ()) :
    t.validateFilter object g = .ok () := by
  unfold validate at h
  obtain ⟨⟨⟩, hg, -⟩ := bind_eq_ok h
  exact hg

theorem validate_filter (h : t.validateFilter object g = .ok ()) :
    t.validate object (some g) none = .ok () := by
  simp only [validate, h]
  rfl

end PolicyTable

/-! ## Tests for texts -/

namespace FieldPolicy

variable {p : FieldPolicy} {c : Condition}

/-- Whether a policy refuses every test for a text. -/
def refusesTexts (p : FieldPolicy) : Bool :=
  (p.denies .eq && p.denies .like) || p.literalType == some .number

/-- When a policy permits a test for a text. -/
theorem check_text_eq_ok (hc : c.test.literalType? = some .text) :
    p.check c = .ok () ↔ p.denies c.test.operation = false ∧ p.literalType ≠ some .number := by
  rw [check, hc]
  cases p.denies c.test.operation
  · rcases p.literalType with _ | _ | _ <;> simp
  · simp

theorem not_text_of_refusesTexts (hp : p.refusesTexts = true) (h : p.check c = .ok ()) :
    c.test.literalType? ≠ some .text := by
  intro hc
  obtain ⟨hdenied, htype⟩ := (check_text_eq_ok hc).1 h
  rw [refusesTexts, Bool.or_eq_true, Bool.and_eq_true, beq_iff_eq] at hp
  obtain ⟨heq, hlike⟩ := hp.resolve_right htype
  obtain ⟨path, test, negated⟩ := c
  cases test with
  | equals value => exact nomatch heq.symm.trans hdenied
  | like pattern => exact nomatch hlike.symm.trans hdenied
  | compares comparison x => cases hc
  | isNull => cases hc

/-- A policy that does not refuse tests for texts permits equality or patterns. -/
theorem check_of_not_refusesTexts (hp : ¬ p.refusesTexts = true) (path : List String)
    (s pattern : String) :
    p.check ⟨path, .equals s, false⟩ = .ok () ∨ p.check ⟨path, .like pattern, false⟩ = .ok () := by
  rw [check_text_eq_ok rfl, check_text_eq_ok rfl]
  rw [refusesTexts, Bool.or_eq_true, Bool.and_eq_true, beq_iff_eq, not_or, not_and_or,
    Bool.not_eq_true, Bool.not_eq_true] at hp
  exact hp.1.imp (⟨·, hp.2⟩) (⟨·, hp.2⟩)

end FieldPolicy

end RecordQuery
