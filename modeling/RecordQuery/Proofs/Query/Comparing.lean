import RecordQuery.Query.Sorting
/-!
# Records are in a total preorder

Keys of one kind are ordered by what they hold, and keys of two kinds by the kinds
alone. Neither reading takes notice of the other, so the order of keys is
lexicographic: the kind first, then the truth value, the number and the text,
which are the same for all keys of another kind (`SortKey.compare_eq_lex`). So
are criteria one after the other, and a direction turns an order around. All
of this keeps total preorders, whatever stands at the tags
(`Sorting.compare_preorder`).
-/

namespace RecordQuery

/-! ## Keys -/

namespace SortKey

/-- The truth value of a key, as a number. -/
def flag : SortKey → Nat
  | bool b => b.toNat
  | _ => 0

/-- The place of a key's number among all numbers. -/
def place : SortKey → Int
  | number x => x.rank
  | _ => 0

/-- The text of a key. -/
def wording : SortKey → String
  | text s => s
  | _ => ""

/-- **Keys are ordered lexicographically.** -/
theorem compare_eq_lex : SortKey.compare =
    compareLex (compareOn rank) (compareLex (compareOn flag)
      (compareLex (compareOn place) (compareOn wording))) := by
  funext a b
  -- where the kinds differ they decide, and otherwise two of the other parts tie
  cases a with
  | null => cases b <;> rfl
  | other => cases b <;> rfl
  | bool x =>
    cases b with
    | bool y => exact Ordering.then_eq.symm
    | _ => rfl
  | number x =>
    cases b with
    | number y => exact Ordering.then_eq.symm
    | _ => rfl
  | text s => cases b <;> rfl

instance : Std.TransCmp SortKey.compare := by
  rw [compare_eq_lex]
  infer_instance

end SortKey

/-! ## Criteria -/

/-- Comparing what a function makes of two things compares the things. -/
theorem transCmp_comap {α β : Type} (cmp : β → β → Ordering) [Std.TransCmp cmp] (f : α → β) :
    Std.TransCmp fun a b => cmp (f a) (f b) where
  eq_swap := Std.OrientedCmp.eq_swap
  isLE_trans := Std.TransCmp.isLE_trans

/-- Going down is going up with the two sides exchanged. -/
theorem Criterion.compare_descending (tag : String) :
    Criterion.compare ⟨tag, .descending⟩ = fun a b => Criterion.compare ⟨tag, .ascending⟩ b a := by
  funext a b
  exact Std.OrientedCmp.eq_swap.symm

instance (c : Criterion) : Std.TransCmp c.compare := by
  obtain ⟨tag, order⟩ := c
  have hascending : Std.TransCmp (Criterion.compare ⟨tag, .ascending⟩) :=
    transCmp_comap SortKey.compare fun r : Record => r.sortKey tag
  cases order with
  | ascending => exact hascending
  | descending =>
    rw [Criterion.compare_descending]
    exact Std.TransCmp.opposite

/-- The first criterion that tells records apart decides. -/
theorem compareBy_cons (c : Criterion) (rest : List Criterion) :
    (fun a b => compareBy a b (c :: rest)) =
      compareLex c.compare (fun a b => compareBy a b rest) := rfl

instance (criteria : List Criterion) :
    Std.TransCmp fun a b => compareBy a b criteria := by
  induction criteria with
  | nil => exact { eq_swap := rfl, isLE_trans := fun _ _ => rfl }
  | cons c rest ih =>
    rw [compareBy_cons]
    infer_instance

/-! ## Orders -/

namespace Sorting

instance (s : Sorting) : Std.TransCmp s.compare :=
  inferInstanceAs (Std.TransCmp fun a b => compareBy a b s.criteria)

/-- **Comparing records is a total preorder.** A record ties with itself, changing
sides turns the answer around, and what does not come after something that
does not come after a third does not come after the third. -/
theorem compare_preorder (s : Sorting) (a b c : Record) :
    s.compare a a = .eq ∧ s.compare b a = (s.compare a b).swap ∧
      (s.compare a b ≠ .gt → s.compare b c ≠ .gt → s.compare a c ≠ .gt) := by
  refine ⟨Std.ReflCmp.compare_self, Std.OrientedCmp.eq_swap, ?_⟩
  simp only [← Ordering.isLE_iff_ne_gt]
  exact Std.TransCmp.isLE_trans

/-- A document with a value under the name `key`. -/
def keyed (v : Json.Value) : Record := .document (.object [("key", v)])

/-- Downwards a text stands before a truth value and that before a document that
is none, so the text stands before it, too. -/
theorem compare_text_flag_null :
    (compare ⟨[⟨"key", .descending⟩]⟩ (keyed (.string "b")) (keyed (.bool true)) ≠ .gt ∧
      compare ⟨[⟨"key", .descending⟩]⟩ (keyed (.bool true)) (.document .null) ≠ .gt) ∧
    compare ⟨[⟨"key", .descending⟩]⟩ (keyed (.string "b")) (.document .null) ≠ .gt := by
  have hflag :
      compare ⟨[⟨"key", .descending⟩]⟩ (keyed (.string "b")) (keyed (.bool true)) ≠ .gt := by
    decide
  have hnull : compare ⟨[⟨"key", .descending⟩]⟩ (keyed (.bool true)) (.document .null) ≠ .gt := by
    decide
  exact ⟨⟨hflag, hnull⟩, (compare_preorder _ _ _ _).2.2 hflag hnull⟩

end Sorting

end RecordQuery
