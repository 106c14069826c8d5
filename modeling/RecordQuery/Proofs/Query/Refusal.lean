import RecordQuery.Proofs.Query.Permission
/-!
# What a table refuses, and with which error

A condition breaches the policy of its field when the operation that it uses is
denied, or else when its literal is not of the type that the policy asks for
(`Breach`). A table refuses a query with the error of its first such condition
from left to right, and only a query without one for the first tag that may not
be sorted by (`PolicyTable.validate_settled`). Connectives and negations are not
looked at.
-/

namespace RecordQuery

open Json

/-! ## The first item with an error -/

section First

variable {α ε : Type} {R : α → ε → Prop} {a : α} {l l' : List α} {e : ε}

/-- The first item that has an error has this one. -/
inductive First (R : α → ε → Prop) : List α → ε → Prop
  | here {a : α} {rest : List α} {e : ε} (h : R a e) : First R (a :: rest) e
  | later {a : α} {rest : List α} {e : ε} (hnone : ∀ e', ¬ R a e') (h : First R rest e) :
      First R (a :: rest) e

theorem first_nil : ¬ First R [] e := nofun

theorem first_cons :
    First R (a :: l) e ↔ R a e ∨ (∀ e', ¬ R a e') ∧ First R l e := by
  constructor
  · rintro (h | ⟨hnone, h⟩)
    · exact .inl h
    · exact .inr ⟨hnone, h⟩
  · rintro (h | ⟨hnone, h⟩)
    · exact .here h
    · exact .later hnone h

theorem first_append :
    First R (l ++ l') e ↔ First R l e ∨ (∀ a ∈ l, ∀ e', ¬ R a e') ∧ First R l' e := by
  induction l with
  | nil => simp [first_nil]
  | cons a l ih =>
    rw [List.cons_append, first_cons, first_cons, ih, List.forall_mem_cons, and_or_left,
      or_assoc, and_assoc]

end First

/-! ## Conditions -/

/-- The operation that a test uses, and the type of its literal, if it has one. -/
inductive Test.Uses : Test → Operation → Option LiteralType → Prop
  | equals (text : String) : Uses (.equals text) .eq (some .text)
  | like (pattern : String) : Uses (.like pattern) .like (some .text)
  | eq (x : Binary64) : Uses (.compares .eq x) .eq (some .number)
  | lt (x : Binary64) : Uses (.compares .lt x) .lt (some .number)
  | le (x : Binary64) : Uses (.compares .le x) .le (some .number)
  | gt (x : Binary64) : Uses (.compares .gt x) .gt (some .number)
  | ge (x : Binary64) : Uses (.compares .ge x) .ge (some .number)
  | isNull : Uses .isNull .eq none

theorem Test.uses_iff {t : Test} {operation : Operation} {literal : Option LiteralType} :
    t.Uses operation literal ↔ operation = t.operation ∧ literal = t.literalType? := by
  constructor
  · rintro ⟨⟩ <;> exact ⟨rfl, rfl⟩
  · rintro ⟨rfl, rfl⟩
    cases t with
    | compares comparison x => cases comparison <;> constructor
    | _ => constructor

/-- A policy permits a test whose operation is not denied, and whose literal, if
it has one, is of the type that the policy asks for. -/
def FieldPolicy.Permits (p : FieldPolicy) (t : Test) : Prop :=
  ∀ operation literal, t.Uses operation literal → operation ∉ p.denied ∧
    ∀ expected actual, p.literalType = some expected → literal = some actual → actual = expected

/-- How a condition breaches the policy of its field. -/
inductive Breach (policies : ObjectPolicy) (c : Condition) : PolicyError → Prop
  | denied {p : FieldPolicy} {operation : Operation} {literal : Option LiteralType}
      (hp : policies.get? c.field = some p) (ht : c.test.Uses operation literal)
      (hdenied : operation ∈ p.denied) : Breach policies c (.operationDenied c.field operation)
  | mistyped {p : FieldPolicy} {operation : Operation} {expected actual : LiteralType}
      (hp : policies.get? c.field = some p) (ht : c.test.Uses operation (some actual))
      (hdenied : operation ∉ p.denied) (htype : p.literalType = some expected)
      (hne : actual ≠ expected) : Breach policies c (.wrongLiteral c.field expected)

/-- That a criterion sorts by what may not be sorted by. -/
inductive Unsortable (policies : ObjectPolicy) (c : Criterion) : PolicyError → Prop
  | disabled {p : FieldPolicy} (hp : policies.get? c.tag = some p)
      (h : p.sortingDisabled = true) : Unsortable policies c (.sortingDisabled c.tag)

variable {policies : ObjectPolicy} {c : Condition} {p : FieldPolicy} {e : PolicyError}

theorem FieldPolicy.denies_iff {operation : Operation} :
    p.denies operation = true ↔ operation ∈ p.denied := List.contains_iff_mem

theorem FieldPolicy.check_eq_error :
    p.check c = .error e ↔
      c.test.operation ∈ p.denied ∧ e = .operationDenied c.field c.test.operation ∨
      c.test.operation ∉ p.denied ∧ ∃ expected actual, p.literalType = some expected ∧
        c.test.literalType? = some actual ∧ actual ≠ expected ∧
        e = .wrongLiteral c.field expected := by
  simp only [check, denies_iff]
  by_cases hdenied : c.test.operation ∈ p.denied
  · simp [hdenied, eq_comm]
  · cases p.literalType with
    | none => simp [hdenied]
    | some expected =>
      cases c.test.literalType? with
      | none => simp [hdenied]
      | some actual => by_cases h : expected = actual <;> simp [hdenied, h, eq_comm]

/-- A policy's check passes the conditions whose tests it permits. -/
theorem FieldPolicy.check_eq_ok : p.check c = .ok () ↔ p.Permits c.test := by
  simp only [eq_ok_iff_forall_ne_error, ne_eq, check_eq_error, Permits, Test.uses_iff]
  constructor
  · rintro h _ _ ⟨rfl, rfl⟩
    have hdenied : c.test.operation ∉ p.denied := fun hd => h _ (.inl ⟨hd, rfl⟩)
    refine ⟨hdenied, fun expected actual hp hc => Decidable.byContradiction fun hne => ?_⟩
    exact h _ (.inr ⟨hdenied, expected, actual, hp, hc, hne, rfl⟩)
  · rintro h e (⟨hd, -⟩ | ⟨-, expected, actual, hp, hc, hne, -⟩)
    · exact (h _ _ ⟨rfl, rfl⟩).1 hd
    · exact hne ((h _ _ ⟨rfl, rfl⟩).2 expected actual hp hc)

theorem checkCondition_eq_error :
    checkCondition policies c = .error e ↔ Breach policies c e := by
  rw [checkCondition]
  constructor
  · intro h
    split at h
    · next p hp =>
      rcases FieldPolicy.check_eq_error.1 h with
        ⟨hd, rfl⟩ | ⟨hd, expected, actual, ht, hc, hne, rfl⟩
      · exact .denied hp (Test.uses_iff.2 ⟨rfl, rfl⟩) hd
      · exact .mistyped hp (Test.uses_iff.2 ⟨rfl, hc.symm⟩) hd ht hne
    · cases h
  · rintro (⟨hp, ht, hd⟩ | ⟨hp, ht, hd, htype, hne⟩)
    · obtain ⟨rfl, rfl⟩ := Test.uses_iff.1 ht
      simp only [hp]
      exact FieldPolicy.check_eq_error.2 (.inl ⟨hd, rfl⟩)
    · obtain ⟨rfl, hc⟩ := Test.uses_iff.1 ht
      simp only [hp]
      exact FieldPolicy.check_eq_error.2 (.inr ⟨hd, _, _, htype, hc.symm, hne, rfl⟩)

/-- A condition breaches nothing when its policy permits its test. -/
theorem not_breach_iff_permits :
    (∀ e, ¬ Breach policies c e) ↔
      ∀ p, policies.get? c.field = some p → p.Permits c.test := by
  simp only [← checkCondition_eq_error, ← FieldPolicy.check_eq_ok, ← checkCondition_eq_ok]
  exact eq_ok_iff_forall_ne_error.symm

/-! ## Filters and criteria -/

theorem checkFilter_eq_ok_iff_not_breach {f : Filter} :
    checkFilter policies f = .ok () ↔ ∀ c ∈ f.conditions, ∀ e, ¬ Breach policies c e := by
  rw [checkFilter_eq_ok]
  simp only [eq_ok_iff_forall_ne_error, ne_eq, checkCondition_eq_error]

/-- **A filter is refused with the error of its first breach from left to
right.** -/
theorem checkFilter_eq_error {f : Filter} :
    checkFilter policies f = .error e ↔ First (Breach policies) f.conditions e := by
  induction f with
  | condition c =>
    rw [checkFilter, Filter.conditions, checkCondition_eq_error, first_cons]
    exact ⟨.inl, fun h => h.elim id fun h => absurd h.2 first_nil⟩
  | junction o l r n ihl ihr =>
    rw [checkFilter, bind_eq_error, ihl, Filter.conditions_junction, first_append]
    refine or_congr_right ⟨?_, ?_⟩
    · rintro ⟨⟨⟩, hl, hr⟩
      exact ⟨checkFilter_eq_ok_iff_not_breach.1 hl, ihr.1 hr⟩
    · rintro ⟨hl, hr⟩
      exact ⟨(), checkFilter_eq_ok_iff_not_breach.2 hl, ihr.2 hr⟩

theorem unsortable_iff {c : Criterion} :
    Unsortable policies c e ↔
      ∃ p, policies.get? c.tag = some p ∧ p.sortingDisabled = true ∧
        e = .sortingDisabled c.tag := by
  constructor
  · rintro ⟨hp, h⟩
    exact ⟨_, hp, h, rfl⟩
  · rintro ⟨p, hp, h, rfl⟩
    exact .disabled hp h

/-- **An order is refused for its first tag that may not be sorted by.** -/
theorem checkCriteria_eq_error {criteria : List Criterion} :
    checkCriteria policies criteria = .error e ↔ First (Unsortable policies) criteria e := by
  induction criteria with
  | nil => exact iff_of_false nofun first_nil
  | cons c rest ih =>
    simp only [checkCriteria, first_cons, unsortable_iff, ← ih]
    cases policies.get? c.tag with
    | none => simp
    | some p =>
      cases hp : p.sortingDisabled with
      | false => simp [hp]
      | true => simp [hp, @eq_comm _ e]

/-! ## Queries -/

/-- The same tests on the same fields, with any connectives and negations. -/
inductive Filter.SameTests : Filter → Filter → Prop
  | condition (path : List String) (test : Test) (negated negated' : Bool) :
      SameTests (.condition ⟨path, test, negated⟩) (.condition ⟨path, test, negated'⟩)
  | junction {l l' r r' : Filter} (o o' : Connective) (negated negated' : Bool)
      (hl : SameTests l l') (hr : SameTests r r') :
      SameTests (.junction o l r negated) (.junction o' l' r' negated')

theorem Filter.SameTests.checkFilter_eq {f g : Filter} (h : f.SameTests g) :
    checkFilter policies g = checkFilter policies f := by
  induction h with
  | condition => rfl
  | junction o o' negated negated' hl hr ihl ihr => rw [checkFilter, checkFilter, ihl, ihr]

namespace PolicyTable

variable {t : PolicyTable} {object : String} {filter : Option Filter} {sorting : Option Sorting}

/-- A filter is checked before an order. -/
theorem validate_eq :
    t.validate object filter sorting = (do
      filter.elim (.ok ()) (t.validateFilter object)
      sorting.elim (.ok ()) (t.validateSorting object)) := by
  cases filter <;> cases sorting <;> rfl

theorem validate_of_none (h : t.object? object = none) :
    t.validate object filter sorting = .ok () := by
  rw [validate_eq]
  cases filter <;> cases sorting <;> simp [validateFilter, validateSorting, h] <;> rfl

/-- A query is checked by the policies of its object. -/
theorem validate_of_some (h : t.object? object = some policies) :
    t.validate object filter sorting = (do
      filter.elim (.ok ()) (checkFilter policies)
      checkCriteria policies (sorting.elim [] Sorting.criteria)) := by
  rw [validate_eq]
  cases filter <;> cases sorting <;> simp [validateFilter, validateSorting, h] <;> rfl

theorem checkFilter_elim_eq_ok :
    filter.elim (.ok ()) (checkFilter policies) = .ok () ↔
      ∀ c ∈ filter.elim [] Filter.conditions, ∀ e, ¬ Breach policies c e := by
  cases filter with
  | none => exact iff_of_true rfl nofun
  | some f => exact checkFilter_eq_ok_iff_not_breach

theorem checkFilter_elim_eq_error :
    filter.elim (.ok ()) (checkFilter policies) = .error e ↔
      First (Breach policies) (filter.elim [] Filter.conditions) e := by
  cases filter with
  | none => exact iff_of_false nofun first_nil
  | some f => exact checkFilter_eq_error

theorem validate_eq_error :
    t.validate object filter sorting = .error e ↔
      ∃ policies, t.object? object = some policies ∧
        (First (Breach policies) (filter.elim [] Filter.conditions) e ∨
          (∀ c ∈ filter.elim [] Filter.conditions, ∀ e', ¬ Breach policies c e') ∧
            First (Unsortable policies) (sorting.elim [] Sorting.criteria) e) := by
  cases ho : t.object? object with
  | none =>
    rw [validate_of_none ho]
    exact iff_of_false nofun nofun
  | some policies =>
    rw [validate_of_some ho, bind_eq_error, checkFilter_elim_eq_error]
    simp only [checkCriteria_eq_error, Option.some.injEq, exists_eq_left']
    refine or_congr_right ⟨?_, ?_⟩
    · rintro ⟨⟨⟩, hfilter, hsorting⟩
      exact ⟨checkFilter_elim_eq_ok.1 hfilter, hsorting⟩
    · rintro ⟨hfilter, hsorting⟩
      exact ⟨(), checkFilter_elim_eq_ok.2 hfilter, hsorting⟩

theorem validate_eq_ok :
    t.validate object filter sorting = .ok () ↔
      ∀ policies, t.object? object = some policies →
        (∀ c ∈ filter.elim [] Filter.conditions, ∀ p, policies.get? c.field = some p →
          p.Permits c.test) ∧
        ∀ c ∈ sorting.elim [] Sorting.criteria, ∀ p, policies.get? c.tag = some p →
          p.sortingDisabled = false := by
  cases ho : t.object? object with
  | none =>
    rw [validate_of_none ho]
    exact iff_of_true rfl nofun
  | some policies =>
    rw [validate_of_some ho]
    simp only [Option.some.injEq, forall_eq', ← not_breach_iff_permits, ← checkFilter_elim_eq_ok,
      ← checkCriteria_eq_ok]
    constructor
    · intro h
      obtain ⟨⟨⟩, hfilter, hsorting⟩ := bind_eq_ok h
      exact ⟨hfilter, hsorting⟩
    · rintro ⟨hfilter, hsorting⟩
      rw [hfilter]
      exact hsorting

/-- A table looks at the tests of a filter only. -/
theorem validate_of_sameTests {f g : Filter} (h : f.SameTests g) :
    t.validate object (some g) sorting = t.validate object (some f) sorting := by
  have hfilter : t.validateFilter object g = t.validateFilter object f := by
    rw [validateFilter, validateFilter]
    split
    · exact h.checkFilter_eq
    · rfl
  rw [validate_eq, validate_eq]
  exact congrArg (· >>= _) hfilter

/-- **A table permits a query that breaches no policy of its object, and refuses
any other with the error of its first breach.** What is sorted by counts only
when the filter has none, and connectives and negations do not count. -/
theorem validate_settled (t : PolicyTable) (object : String) (filter : Option Filter)
    (sorting : Option Sorting) :
    (t.validate object filter sorting = .ok () ↔
      ∀ policies, t.object? object = some policies →
        (∀ c ∈ filter.elim [] Filter.conditions, ∀ p, policies.get? c.field = some p →
          p.Permits c.test) ∧
        ∀ c ∈ sorting.elim [] Sorting.criteria, ∀ p, policies.get? c.tag = some p →
          p.sortingDisabled = false) ∧
    (∀ e, t.validate object filter sorting = .error e ↔
      ∃ policies, t.object? object = some policies ∧
        (First (Breach policies) (filter.elim [] Filter.conditions) e ∨
          (∀ c ∈ filter.elim [] Filter.conditions, ∀ e', ¬ Breach policies c e') ∧
            First (Unsortable policies) (sorting.elim [] Sorting.criteria) e)) ∧
    ∀ f g, filter = some f → f.SameTests g →
      t.validate object (some g) sorting = t.validate object filter sorting := by
  refine ⟨validate_eq_ok, fun e => validate_eq_error, ?_⟩
  rintro f g rfl hsame
  exact validate_of_sameTests hsame

/-- The age of a user is a number and may not be asked to be more than another,
and the name may not be sorted by. -/
def userPolicies : ObjectPolicy :=
  (Members.empty.insert "age" ((FieldPolicy.deny [.gt]).withLiteralType .number)).insert
    "name" FieldPolicy.unrestricted.withoutSorting

/-- The policies of users, and of nothing else. -/
def usersTable : PolicyTable := ⟨Members.empty.insert "User" userPolicies⟩

/-- A test for null breaches nothing, so a denied operation behind it is what a
query is refused for, before the name that it sorts by. Without the filter it is
the name. -/
theorem usersTable_refuses :
    usersTable.validate "User"
        (some (.junction .or (.condition ⟨["age"], .isNull, false⟩)
          (.condition ⟨["age"], .compares .gt (.ofInt 3), true⟩) false))
        (some ⟨[⟨"name", .ascending⟩]⟩) = .error (.operationDenied "age" .gt) ∧
      usersTable.validate "User" none (some ⟨[⟨"age", .descending⟩, ⟨"name", .ascending⟩]⟩) =
        .error (.sortingDisabled "name") := by
  have hobject : usersTable.object? "User" = some userPolicies := by decide
  have hnull : checkCondition userPolicies ⟨["age"], .isNull, false⟩ = .ok () := rfl
  constructor
  · refine ((validate_settled _ _ _ _).2.1 _).2 ⟨userPolicies, hobject, .inl ?_⟩
    refine .later (fun e h => ?_) (.here (.denied rfl (.gt _) (by decide)))
    exact nomatch hnull.symm.trans (checkCondition_eq_error.2 h)
  · refine ((validate_settled _ _ _ _).2.1 _).2 ⟨userPolicies, hobject, .inr ⟨nofun, ?_⟩⟩
    refine .later ?_ (.here (.disabled rfl rfl))
    rintro e ⟨hp, h⟩
    cases hp
    cases h

end PolicyTable

end RecordQuery
