import RecordQuery.Number.Binary64
import RecordQuery.Text.Pieces
/-!
# Filters — trees of conditions on fields

A condition tests the field at a path, and may be negated. A filter is a
condition, or two filters joined by a connective, which may be negated as a
whole. Trees are compared with `same`, in which numbers are equal as numbers:
the two zeros agree.
-/

namespace RecordQuery

/-- What joins two filters. -/
inductive Connective where
  | and
  | or
deriving DecidableEq, Repr

/-- How a number is compared. -/
inductive Comparison where
  | eq
  | lt
  | le
  | gt
  | ge
deriving DecidableEq, Repr

/-- What a condition asks of the value at its path. -/
inductive Test where
  | equals (text : String)
  | like (pattern : String)
  | compares (comparison : Comparison) (number : Binary64)
  | isNull
deriving DecidableEq, Repr

/-- A test on the field at a path, given segment by segment. -/
structure Condition where
  path : List String
  test : Test
  negated : Bool
deriving DecidableEq, Repr

/-- A filter. -/
inductive Filter where
  | condition (c : Condition)
  | junction (connective : Connective) (left right : Filter) (negated : Bool)
deriving DecidableEq, Repr

/-- The text of a path: its segments with points between them. -/
def pathText (path : List String) : String := joined "." path

namespace Test

/-- Whether a test compares with a finite number, if with any. -/
def Finite : Test → Prop
  | compares _ x => x.isFinite = true
  | _ => True

/-- Equality of tests, numbers being equal as numbers. -/
def same : Test → Test → Bool
  | .equals a, .equals b => a == b
  | .like a, .like b => a == b
  | .compares c x, .compares d y => c == d && x.eq y
  | .isNull, .isNull => true
  | _, _ => false

theorem Finite.same_self {t : Test} (h : t.Finite) : t.same t = true := by
  cases t with
  | compares c x => simp only [same, beq_self_eq_true, Binary64.eq_self h, Bool.and_self]
  | isNull => rfl
  | _ => exact beq_self_eq_true _

end Test

namespace Condition

/-- Equality of conditions, numbers being equal as numbers. -/
def same (a b : Condition) : Bool :=
  a.path == b.path && a.test.same b.test && a.negated == b.negated

/-- The text of the condition's path. -/
def field (c : Condition) : String := pathText c.path

end Condition

namespace Filter

/-- Both filters hold. -/
def and (left right : Filter) : Filter := .junction .and left right false

/-- One of the filters holds. -/
def or (left right : Filter) : Filter := .junction .or left right false

/-- The filter with the opposite flag at its root. -/
def negate : Filter → Filter
  | condition c => condition { c with negated := !c.negated }
  | junction o l r n => junction o l r (!n)

/-- The flag at the root. -/
def negated : Filter → Bool
  | condition c => c.negated
  | junction _ _ _ n => n

/-- The path of a single condition. -/
def path? : Filter → Option (List String)
  | condition c => some c.path
  | junction .. => none

/-- The conditions from left to right. -/
def conditions : Filter → List Condition
  | condition c => [c]
  | junction _ l r _ => l.conditions ++ r.conditions

/-- The texts of the conditions' paths, from left to right. -/
def fields (f : Filter) : List String := f.conditions.map Condition.field

/-- The number of conditions and connectives. -/
def size : Filter → Nat
  | condition _ => 1
  | junction _ l r _ => 1 + l.size + r.size

/-- The number of connectives on the longest way to a condition, and the
condition. -/
def depth : Filter → Nat
  | condition _ => 1
  | junction _ l r _ => 1 + max l.depth r.depth

/-- Equality of filters, numbers being equal as numbers. -/
def same : Filter → Filter → Bool
  | condition a, condition b => a.same b
  | junction o l r n, junction o' l' r' n' => l.same l' && r.same r' && o == o' && n == n'
  | _, _ => false

/-- Whether all numbers in a filter are finite. -/
def Finite (f : Filter) : Prop := ∀ c ∈ f.conditions, c.test.Finite

/-- A filter with finite numbers is the same as itself. -/
theorem Finite.same_self {f : Filter} (h : f.Finite) : f.same f = true := by
  induction f with
  | condition c =>
    have hc : c.test.Finite := h c List.mem_cons_self
    simp only [same, Condition.same, beq_self_eq_true, hc.same_self, Bool.and_self]
  | junction o l r n ihl ihr =>
    have hl : l.Finite := fun c hc => h c (List.mem_append_left _ hc)
    have hr : r.Finite := fun c hc => h c (List.mem_append_right _ hc)
    simp only [same, ihl hl, ihr hr, beq_self_eq_true, Bool.and_self]

/-- Negating twice changes nothing. -/
@[simp] theorem negate_negate (f : Filter) : f.negate.negate = f := by
  cases f <;> simp only [negate, Bool.not_not]

@[simp] theorem depth_negate (f : Filter) : f.negate.depth = f.depth := by
  cases f <;> rfl

@[simp] theorem conditions_junction (o : Connective) (l r : Filter) (n : Bool) :
    (junction o l r n).conditions = l.conditions ++ r.conditions := rfl

/-- Every filter has a depth. -/
theorem depth_pos (f : Filter) : 0 < f.depth := by
  cases f <;> simp only [depth] <;> omega

end Filter

end RecordQuery
