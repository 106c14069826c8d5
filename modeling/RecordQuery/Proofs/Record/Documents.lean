import RecordQuery.Filter.Evaluation
import RecordQuery.Proofs.Results
/-!
# What documents have at their paths

A path through a document stays in documents: every field on it is a member of an object,
and the only records among the members are objects again. So what it leads to is a
member (`Record.exists_toField_of_resolve`), and a member is missing only where it is
written as null (`Json.Value.toField_eq_null`).
-/

namespace RecordQuery

open Json

variable {doc : Value} {name : String} {path : List String} {r : Record} {v : FieldValue}

/-- A member is null as a field's value, or wrapped once. -/
theorem Json.Value.toField_cases (w : Value) :
    w.toField = .null ∨
      ∃ u, w.toField = .optional u ∧ u.dereference = u ∧ u ≠ .null := by
  cases w with
  | null => exact .inl rfl
  | number n =>
    cases n with
    | integer n fits =>
      rw [toField]
      split <;> exact .inr ⟨_, rfl, rfl, nofun⟩
    | float x finite => exact .inr ⟨_, rfl, rfl, nofun⟩
  | _ => exact .inr ⟨_, rfl, rfl, nofun⟩

/-- Inside its wrapper no member is missing. -/
theorem Json.Value.toField_eq_null {w : Value} (h : w.toField.dereference = .null) :
    w.toField = .null := by
  rcases w.toField_cases with hnull | ⟨u, hu, hself, hne⟩
  · exact hnull
  · rw [hu, FieldValue.dereference_optional, hself] at h
    exact absurd h hne

/-- The records among the members are documents. -/
theorem Json.Value.exists_document_of_enter {w : Value} (h : w.toField.enter name = .ok r) :
    ∃ inner, r = .document inner := by
  cases w with
  | object members =>
    cases h
    exact ⟨_, rfl⟩
  | number n =>
    cases n with
    | integer n fits =>
      rw [toField] at h
      split at h <;> cases h
    | float x finite => cases h
  | _ => cases h

theorem Record.exists_toField_of_segment (h : (Record.document doc).segment name = .ok v) :
    ∃ w : Value, v = w.toField := by
  have hfield : doc.field? name = some v := by
    rw [segment, field?] at h
    split at h
    · next u hu => rw [hu, Except.ok.inj h]
    · cases h
  cases doc with
  | object members =>
    obtain ⟨w, -, hw⟩ := Option.map_eq_some_iff.1 hfield
    exact ⟨w, hw.symm⟩
  | _ => cases hfield

/-- **A path through a document leads to a member of an object.** -/
theorem Record.exists_toField_of_resolve (h : (Record.document doc).resolve path = .ok v) :
    ∃ w : Value, v = w.toField := by
  cases path with
  | nil => cases h
  | cons first rest =>
    rw [resolve] at h
    induction rest generalizing doc first with
    | nil => exact exists_toField_of_segment h
    | cons next rest ih =>
      rw [resolveFrom] at h
      obtain ⟨u, hu, h⟩ := bind_eq_ok h
      obtain ⟨w, rfl⟩ := exists_toField_of_segment hu
      obtain ⟨inner, hinner, h⟩ := bind_eq_ok h
      obtain ⟨document, rfl⟩ := Value.exists_document_of_enter hinner
      exact ih next h

end RecordQuery
