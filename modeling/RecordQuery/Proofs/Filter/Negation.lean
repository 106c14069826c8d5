import Mathlib.Logic.Relation
import RecordQuery.Proofs.Filter.Verdict
/-!
# Negations inside a filter

A negated filter has the opposite verdict, and fails by the same error
(`Filter.verdict_negate`). So the negation of a junction can be handed down to its
two sides by De Morgan's laws. One use of them, at any place of a filter, keeps the
tests in their order and the verdict on every record (`DeMorgan.tests_eq`,
`DeMorgan.verdict_eq`), and so does any number of uses (`HandedDown.evaluate_eq`).
Where no junction is negated any more it ends, always with the same filter
(`handedDown_isNormal_iff`).
-/

namespace RecordQuery

variable {f g : Filter}

/-! ## The opposite verdict -/

/-- The connective that joins the opposites. -/
def Connective.dual : Connective → Connective
  | and => or
  | or => and

@[simp] theorem Connective.dual_dual (o : Connective) : o.dual.dual = o := by
  cases o <;> rfl

/-- **De Morgan's laws**, of two verdicts. -/
theorem Connective.apply_dual (o : Connective) (a b : Bool) :
    o.dual.apply (!a) (!b) = !o.apply a b := by
  cases o with
  | and => exact (Bool.not_and a b).symm
  | or => exact (Bool.not_or a b).symm

namespace Filter

theorem verdict_negate [PatternEngine] (f : Filter) (patterns : Patterns) (r : Record) :
    f.negate.verdict patterns r = (f.verdict patterns r).map (!·) := by
  cases f with
  | condition c =>
    -- the condition and its opposite are the same without their negations
    rw [negate, verdict, verdict, Condition.verdict_plain, Condition.verdict_plain patterns r c]
    change (c.plain.verdict patterns r).map _ = _
    cases c.plain.verdict patterns r with
    | error e => rfl
    | ok b => cases b <;> cases c.negated <;> rfl
  | junction o left right negated =>
    rw [negate, verdict, verdict]
    rcases left.verdict patterns r with e | a
    · rfl
    · rcases right.verdict patterns r with e | b
      · rfl
      · exact congrArg Except.ok (Bool.bne_not _ _)

/-- The tests of a filter from left to right. -/
def tests (f : Filter) : List Test := f.conditions.map Condition.test

@[simp] theorem tests_junction (o : Connective) (left right : Filter) (negated : Bool) :
    (junction o left right negated).tests = left.tests ++ right.tests := List.map_append

@[simp] theorem tests_negate (f : Filter) : f.negate.tests = f.tests := by
  cases f <;> rfl

/-- What is compiled are the patterns of the tests. -/
theorem patterns_congr [PatternEngine] (h : f.tests = g.tests) : f.patterns = g.patterns := by
  have hfold (f : Filter) : f.patterns =
      f.tests.foldlM (fun (known : Patterns) t => known.add ⟨[], t, false⟩) [] := by
    rw [Filter.patterns, tests, List.foldlM_map]
    rfl
  rw [hfold, hfold, h]

end Filter

/-! ## De Morgan's laws -/

/-- One use of De Morgan's laws: somewhere in a filter the negation of a junction
is handed down to its sides. -/
inductive DeMorgan : Filter → Filter → Prop
  | here (o : Connective) (left right : Filter) :
      DeMorgan (.junction o left right true) (.junction o.dual left.negate right.negate false)
  | left {left left' : Filter} (o : Connective) (right : Filter) (negated : Bool)
      (h : DeMorgan left left') :
      DeMorgan (.junction o left right negated) (.junction o left' right negated)
  | right {right right' : Filter} (o : Connective) (left : Filter) (negated : Bool)
      (h : DeMorgan right right') :
      DeMorgan (.junction o left right negated) (.junction o left right' negated)

namespace DeMorgan

theorem tests_eq (h : DeMorgan f g) : g.tests = f.tests := by
  induction h with
  | here o left right => simp only [Filter.tests_junction, Filter.tests_negate]
  | left o right negated h ih => rw [Filter.tests_junction, Filter.tests_junction, ih]
  | right o left negated h ih => rw [Filter.tests_junction, Filter.tests_junction, ih]

/-- **Using De Morgan's laws keeps the verdict**, and the error where there is none. -/
theorem verdict_eq [PatternEngine] (h : DeMorgan f g) (patterns : Patterns) (r : Record) :
    g.verdict patterns r = f.verdict patterns r := by
  induction h with
  | here o left right =>
    rw [Filter.verdict, Filter.verdict, Filter.verdict_negate, Filter.verdict_negate]
    rcases left.verdict patterns r with e | a
    · rfl
    · rcases right.verdict patterns r with e | b
      · rfl
      · refine congrArg Except.ok ?_
        rw [Connective.apply_dual, Bool.bne_false, Bool.bne_true]
  | left o right negated h ih => rw [Filter.verdict, Filter.verdict, ih]
  | right o left negated h ih => rw [Filter.verdict, Filter.verdict, ih]

end DeMorgan

/-- Any number of uses of De Morgan's laws. -/
abbrev HandedDown : Filter → Filter → Prop := Relation.ReflTransGen DeMorgan

/-- Handing negations down changes no answer. -/
theorem HandedDown.evaluate_eq [PatternEngine] (h : HandedDown f g) (r : Record) :
    evaluate (some g) r = evaluate (some f) r := by
  induction h with
  | refl => rfl
  | tail _ step ih =>
    rw [← ih, evaluate, evaluate, Filter.patterns_congr step.tests_eq]
    simp only [step.verdict_eq]

/-! ## The normal form -/

namespace Filter

/-- Whether no junction is negated. -/
def IsNormal : Filter → Prop
  | condition _ => True
  | junction _ left right negated => negated = false ∧ left.IsNormal ∧ right.IsNormal

/-- The filter, or its opposite, with the negations of all junctions pushed down to
the conditions. -/
def pushed (opposite : Bool) : Filter → Filter
  | condition c => condition { c with negated := c.negated != opposite }
  | junction o left right negated =>
    junction (if negated != opposite then o.dual else o)
      (left.pushed (negated != opposite)) (right.pushed (negated != opposite)) false

/-- The negation normal form of a filter. -/
def normal (f : Filter) : Filter := f.pushed false

theorem isNormal_pushed (f : Filter) (opposite : Bool) : (f.pushed opposite).IsNormal := by
  induction f generalizing opposite with
  | condition c => trivial
  | junction o left right negated ihl ihr => exact ⟨rfl, ihl _, ihr _⟩

/-- Nothing is pushed where no junction is negated. -/
theorem IsNormal.normal_eq (h : f.IsNormal) : f.normal = f := by
  unfold normal
  induction f with
  | condition c => rw [pushed, Bool.bne_false]
  | junction o left right negated ihl ihr =>
    obtain ⟨rfl, hl, hr⟩ := h
    simp only [pushed, bne_self_eq_false, Bool.false_eq_true, if_false, ihl hl, ihr hr]

/-- What the opposite is pushed to. -/
theorem pushed_negate (f : Filter) (opposite : Bool) :
    f.negate.pushed opposite = f.pushed (!opposite) := by
  cases f <;> simp only [negate, pushed, Bool.not_bne, Bool.bne_not]

end Filter

/-- What a filter is pushed to does not depend on what has been handed down before. -/
theorem DeMorgan.pushed_eq (h : DeMorgan f g) (opposite : Bool) :
    g.pushed opposite = f.pushed opposite := by
  induction h generalizing opposite with
  | here o left right =>
    simp only [Filter.pushed, Filter.pushed_negate]
    cases opposite <;> simp
  | left o right negated h ih => rw [Filter.pushed, Filter.pushed, ih]
  | right o left negated h ih => rw [Filter.pushed, Filter.pushed, ih]

theorem HandedDown.normal_eq (h : HandedDown f g) : g.normal = f.normal := by
  induction h with
  | refl => rfl
  | tail _ step ih => exact (step.pushed_eq false).trans ih

theorem HandedDown.junction {left left' right right' : Filter} (o : Connective) (negated : Bool)
    (hl : HandedDown left left') (hr : HandedDown right right') :
    HandedDown (.junction o left right negated) (.junction o left' right' negated) :=
  (hl.lift (Filter.junction o · right negated) fun _ _ => .left o right negated).trans
    (hr.lift (Filter.junction o left' · negated) fun _ _ => .right o left' negated)

/-- Handing down reaches what a filter is pushed to, from the filter and from its
opposite. -/
theorem handedDown_pushed (f : Filter) :
    HandedDown f (f.pushed false) ∧ HandedDown f.negate (f.pushed true) := by
  induction f with
  | condition c =>
    rw [Filter.negate, Filter.pushed, Filter.pushed, Bool.bne_false, Bool.bne_true]
    exact ⟨.refl, .refl⟩
  | junction o left right negated ihl ihr =>
    -- one of the two is negated, and handing its negation down leaves the opposites of the sides
    have hplain := HandedDown.junction o false ihl.1 ihr.1
    have hnegated := Relation.ReflTransGen.head (.here o left right)
      (HandedDown.junction o.dual false ihl.2 ihr.2)
    cases negated with
    | false => exact ⟨hplain, hnegated⟩
    | true => exact ⟨hnegated, hplain⟩

/-- **Handing down all negations comes to one filter**, the normal form. -/
theorem handedDown_isNormal_iff : HandedDown f g ∧ g.IsNormal ↔ g = f.normal := by
  constructor
  · rintro ⟨hg, hnormal⟩
    exact hnormal.normal_eq.symm.trans hg.normal_eq
  · rintro rfl
    exact ⟨(handedDown_pushed f).1, f.isNormal_pushed false⟩

/-- **Negations inside a filter.** Negating a filter turns its verdict and keeps its
error, and handing its negations down by De Morgan's laws until no junction is negated,
which comes to its normal form and nothing else, keeps both. -/
theorem evaluate_normal [PatternEngine] (f : Filter) (r : Record) :
    evaluate (some f.negate) r = (evaluate (some f) r).map (!·) ∧
      (∀ g, HandedDown f g ∧ g.IsNormal ↔ g = f.normal) ∧
      evaluate (some f.normal) r = evaluate (some f) r := by
  refine ⟨?_, fun g => handedDown_isNormal_iff, (handedDown_pushed f).1.evaluate_eq r⟩
  rw [evaluate, evaluate, Filter.patterns_congr f.tests_negate]
  cases f.patterns with
  | error e => rfl
  | ok patterns => exact f.verdict_negate patterns r

end RecordQuery
