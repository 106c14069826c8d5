import RecordQuery.Proofs.Filter.Verdict
import RecordQuery.Proofs.Query.Keys
import RecordQuery.Proofs.Record.Documents
import RecordQuery.Reference.Engine
/-!
# Missing values

Tests for texts and numbers strip a value of all its wrappers, and what is null inside
them is missing for these tests: none of them holds of it, and none of them fails
(`takenAsMissing_iff`). The test for null strips nothing. So it agrees with the others
on every value but one that is there and yet missing, null inside a wrapper
(`nullTest_agrees_iff`). No member of a document is such a value.
-/

namespace RecordQuery

open Json

variable {r : Record} {path : List String} {v : FieldValue}

/-- The condition that the field at a path is null, or is not. -/
def nullTest (path : List String) (negated : Bool) : Condition := ⟨path, .isNull, negated⟩

section

variable [PatternEngine]

/-- Whether all tests for texts and numbers at a path take the value there as missing:
they do not hold of it, and their negations do. -/
def TakenAsMissing (r : Record) (path : List String) : Prop :=
  ∀ c : Condition, c.path = path → c.test ≠ .isNull → c.isBroken = false →
    evaluate (some (.condition c)) r = .ok c.negated

/-! ## What the tests say -/

theorem evaluate_nullTest (hv : r.resolve path = .ok v) (hoptional : v.isOptional = true)
    (negated : Bool) :
    evaluate (some (.condition (nullTest path negated))) r = .ok (v.isNull != negated) := by
  rw [evaluate_condition rfl]
  simp only [nullTest, Condition.verdict, hv, Test.holds, hoptional, if_true]
  rfl

/-- A test for a text or a number does not hold of what is missing. -/
theorem Test.holds_of_missing {t : Test} (ht : t ≠ .isNull) (hv : v.dereference = .null)
    (patterns : Patterns) : t.holds patterns v = .ok (.ok false) := by
  cases t with
  | isNull => exact absurd rfl ht
  | _ => simp only [holds, hv, FieldValue.number?, FieldValue.isNull, if_true]

/-- A value that a test for a text and one for a number can be made of is missing. -/
theorem FieldValue.eq_null_of_tests {a b : Bool}
    (htext : (Test.equals "").holds [] v = .ok (.ok a))
    (hnumber : (Test.compares .eq .zero).holds [] v = .ok (.ok b)) : v.dereference = .null := by
  simp only [Test.holds] at htext hnumber
  cases hd : v.dereference with
  | null => rfl
  | text s =>
    rw [hd] at hnumber
    cases hnumber
  | _ =>
    rw [hd] at htext
    cases htext

/-- **The value at a path is taken as missing exactly if it is null inside its
wrappers.** -/
theorem takenAsMissing_iff (hv : r.resolve path = .ok v) :
    TakenAsMissing r path ↔ v.dereference = .null := by
  constructor
  · intro h
    -- a test that does not fail has been made
    have hmade {t : Test} (ht : t ≠ .isNull)
        (hbroken : (Condition.mk path t false).isBroken = false) :
        ∃ b, t.holds [] v = .ok (.ok b) := by
      have hverdict := h ⟨path, t, false⟩ rfl ht hbroken
      rw [evaluate_condition hbroken, Condition.verdict, hv] at hverdict
      obtain ⟨outcome, houtcome, hverdict⟩ := bind_eq_ok hverdict
      cases outcome with
      | error cause => cases hverdict
      | ok b => exact ⟨b, houtcome⟩
    obtain ⟨a, htext⟩ := hmade (t := .equals "") (by decide) rfl
    obtain ⟨b, hnumber⟩ := hmade (t := .compares .eq .zero) (by decide) rfl
    exact FieldValue.eq_null_of_tests htext hnumber
  · rintro hnull c rfl ht hbroken
    rw [evaluate_condition hbroken, Condition.verdict, hv]
    simp only [Test.holds_of_missing ht hnull]
    exact congrArg Except.ok (Bool.false_bne _)

/-! ## Where the test for null agrees -/

/-- **The test for null and the other tests agree exactly where no wrapper stands around
what is missing.** At a path to an optional value the test has a verdict, and its
negation the opposite one. The others take the value as missing exactly if it is null
inside its wrappers, and then the test holds exactly if there is none. -/
theorem nullTest_agrees_iff (hv : r.resolve path = .ok v) (hoptional : v.isOptional = true) :
    ((evaluate (some (.condition (nullTest path false))) r = .ok true ↔ TakenAsMissing r path) ↔
      ∀ u, v = .optional u → u.dereference ≠ .null) ∧
    (∃ b, evaluate (some (.condition (nullTest path false))) r = .ok b ∧
      evaluate (some (.condition (nullTest path true))) r = .ok !b) ∧
    (TakenAsMissing r path ↔ v.dereference = .null) ∧
    (∀ doc, r = .document doc →
      (evaluate (some (.condition (nullTest path false))) r = .ok true ↔
        TakenAsMissing r path)) := by
  have htest : evaluate (some (.condition (nullTest path false))) r = .ok true ↔ v = .null := by
    rw [evaluate_nullTest hv hoptional]
    cases v <;> simp [FieldValue.isNull]
  rw [htest, takenAsMissing_iff hv]
  refine ⟨?_, ⟨v.isNull, ?_, ?_⟩, Iff.rfl, ?_⟩
  · cases v with
    | null => exact iff_of_true (iff_of_true rfl rfl) nofun
    | optional u =>
      rw [FieldValue.dereference_optional]
      constructor
      · rintro h _ ⟨⟩ hu
        exact absurd (h.2 hu) nofun
      · intro h
        exact iff_of_false nofun (h u rfl)
    | _ => cases hoptional
  · rw [evaluate_nullTest hv hoptional, Bool.bne_false]
  · rw [evaluate_nullTest hv hoptional, Bool.bne_true]
  · rintro doc rfl
    obtain ⟨w, rfl⟩ := Record.exists_toField_of_resolve hv
    refine ⟨fun h => ?_, Value.toField_eq_null⟩
    rw [h]
    rfl

end

/-- An entity with a single field. -/
def holding (v : FieldValue) : Record := .entity (.build ⟨0, "Holder"⟩ [("field", "field")]) [v]

section

open Reference

/-- Around a text there may be any number of wrappers. -/
theorem wrappedText_agrees :
    ((holding (.optional (.optional (.text "a")))).resolve ["field"] =
        .ok (.optional (.optional (.text "a"))) ∧
      (FieldValue.optional (.optional (.text "a"))).isOptional = true) ∧
    (evaluate (some (.condition (nullTest ["field"] false)))
        (holding (.optional (.optional (.text "a")))) = .ok true ↔
      TakenAsMissing (holding (.optional (.optional (.text "a")))) ["field"]) := by
  have hresolve : (holding (.optional (.optional (.text "a")))).resolve ["field"] =
      .ok (.optional (.optional (.text "a"))) := by rfl
  refine ⟨⟨hresolve, rfl⟩, (nullTest_agrees_iff hresolve rfl).1.2 ?_⟩
  rintro u ⟨⟩
  exact nofun

/-- What is missing inside a wrapper is not null for the test, though every other test
takes it as missing. -/
theorem wrappedNull_disagrees :
    (holding (.optional .null)).resolve ["field"] = .ok (.optional .null) ∧
      TakenAsMissing (holding (.optional .null)) ["field"] ∧
      evaluate (some (.condition (nullTest ["field"] false))) (holding (.optional .null)) =
        .ok false := by
  have hresolve : (holding (.optional .null)).resolve ["field"] = .ok (.optional .null) := by rfl
  exact ⟨hresolve, (takenAsMissing_iff hresolve).2 rfl, evaluate_nullTest hresolve rfl false⟩

end

end RecordQuery
