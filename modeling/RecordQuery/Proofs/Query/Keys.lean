import RecordQuery.Filter.Evaluation
import RecordQuery.Query.Sorting
/-!
# Records are sorted by what filters are evaluated on

A sort key and a condition walk along a path on their own: for the one whatever goes
wrong is a missing value, the other reports it. Both come to the same value
(`Record.keyAt_eq`), so a key is what that value is inside its wrappers, and its
text or number is the one that a condition on the path compares (`sortKey_agrees`).
-/

namespace RecordQuery

variable {r : Record} {path : List String} {v : FieldValue}

/-! ## Values -/

/-- There is no wrapper inside the wrappers. -/
theorem FieldValue.dereference_ne_optional : (v u : FieldValue) → v.dereference ≠ .optional u
  | optional v, u => dereference_ne_optional v u
  | text _, _ | integer _, _ | natural _, _ | float _, _ | flag _, _ | record _, _ | null, _
  | unsupported _, _ => by simp [dereference]

/-- **What key a value has.** -/
theorem SortKey.ofField_iff (v : FieldValue) :
    (ofField v = .null ↔ v.dereference = .null) ∧
      (∀ b, ofField v = .bool b ↔ v.dereference = .flag b) ∧
      (∀ s, ofField v = .text s ↔ v.dereference = .text s) ∧
      (∀ x, ofField v = .number x ↔ v.dereference.number? = some x) ∧
      (ofField v = .other ↔
        (∃ inner, v.dereference = .record inner) ∨ ∃ k, v.dereference = .unsupported k) := by
  rw [ofField]
  cases h : v.dereference with
  | optional u => exact absurd h (v.dereference_ne_optional u)
  | _ => simp [FieldValue.number?]

/-! ## Paths -/

theorem Record.keyAt_cons_cons (r : Record) (first next : String) (rest : List String) :
    r.keyAt (first :: next :: rest) =
      match (r.field? first).map FieldValue.dereference with
      | some (.record inner) => inner.keyAt (next :: rest)
      | _ => .null := rfl

/-- **Both walks come to the same value**, and where a condition reports a mismatch
the key is that of a missing value. -/
theorem Record.keyAt_eq (r : Record) (path : List String) :
    r.keyAt path =
      match r.resolve path with
      | .ok v => .ofField v
      | .error _ => .null := by
  cases path with
  | nil => rfl
  | cons first rest =>
    rw [resolve]
    induction rest generalizing r first with
    | nil =>
      rw [keyAt, resolveFrom, segment]
      cases r.field? first <;> rfl
    | cons next rest ih =>
      rw [keyAt_cons_cons, resolveFrom, segment]
      cases r.field? first with
      | none => rfl
      | some v =>
        rw [Option.map_some]
        change _ = match (v.enter first >>= fun inner => inner.resolveFrom next rest) with
          | .ok v => SortKey.ofField v
          | .error _ => .null
        rw [FieldValue.enter]
        cases v.dereference with
        | record inner => exact ih inner next
        | _ => rfl

/-! ## Conditions -/

variable [PatternEngine]

/-- A condition on a path that leads to a number compares that number. -/
theorem evaluate_compares {x : Binary64} (hv : r.resolve path = .ok v)
    (hx : v.dereference.number? = some x) (comparison : Comparison) (y : Binary64)
    (negated : Bool) :
    evaluate (some (.condition ⟨path, .compares comparison y, negated⟩)) r =
      .ok (comparison.holds x y != negated) := by
  change Condition.verdict [] r ⟨path, .compares comparison y, negated⟩ = _
  simp only [Condition.verdict, hv, Test.holds, hx]
  rfl

/-- A condition on a path that leads to a text compares that text. -/
theorem evaluate_equals {s : String} (hv : r.resolve path = .ok v)
    (hs : v.dereference = .text s) (t : String) (negated : Bool) :
    evaluate (some (.condition ⟨path, .equals t, negated⟩)) r = .ok ((s == t) != negated) := by
  change Condition.verdict [] r ⟨path, .equals t, negated⟩ = _
  simp only [Condition.verdict, hv, Test.holds, hs]
  rfl

/-- **A record is sorted by what filters are evaluated on.** Its key under a tag is
that of a missing value exactly if the tag's path cannot be walked or leads to null;
otherwise the path leads to a value whose truth value, text or number is the key,
and the other key is left for records and for what is not supported. A condition
on the path compares the same text and the same number. -/
theorem sortKey_agrees (r : Record) (tag : String) :
    ((r.sortKey tag = .null ↔ (∃ e, r.resolve (piecesOf '.' tag) = .error e) ∨
        ∃ v, r.resolve (piecesOf '.' tag) = .ok v ∧ v.dereference = .null) ∧
      (∀ b, r.sortKey tag = .bool b ↔
        ∃ v, r.resolve (piecesOf '.' tag) = .ok v ∧ v.dereference = .flag b) ∧
      (∀ s, r.sortKey tag = .text s ↔
        ∃ v, r.resolve (piecesOf '.' tag) = .ok v ∧ v.dereference = .text s) ∧
      (∀ x, r.sortKey tag = .number x ↔
        ∃ v, r.resolve (piecesOf '.' tag) = .ok v ∧ v.dereference.number? = some x) ∧
      (r.sortKey tag = .other ↔ ∃ v, r.resolve (piecesOf '.' tag) = .ok v ∧
        ((∃ inner, v.dereference = .record inner) ∨ ∃ k, v.dereference = .unsupported k))) ∧
    (∀ s, r.sortKey tag = .text s → ∀ t negated,
      evaluate (some (.condition ⟨piecesOf '.' tag, .equals t, negated⟩)) r =
        .ok ((s == t) != negated)) ∧
    (∀ x, r.sortKey tag = .number x → ∀ comparison y negated,
      evaluate (some (.condition ⟨piecesOf '.' tag, .compares comparison y, negated⟩)) r =
        .ok (comparison.holds x y != negated)) := by
  rw [Record.sortKey, Record.keyAt_eq]
  cases hresolve : r.resolve (piecesOf '.' tag) with
  | error e => simp
  | ok v =>
    obtain ⟨hnull, hbool, htext, hnumber, hother⟩ := SortKey.ofField_iff v
    refine ⟨?_, fun s hs t negated => ?_, fun x hx comparison y negated => ?_⟩
    · simp [hnull, hbool, htext, hnumber, hother]
    · exact evaluate_equals hresolve ((htext s).1 hs) t negated
    · exact evaluate_compares hresolve ((hnumber x).1 hx) comparison y negated

end RecordQuery
