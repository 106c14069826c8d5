import RecordQuery.Proofs.Filter.Locality
import RecordQuery.Proofs.Query.Refusal
/-!
# Restricting a table

A policy is as strict as another when it denies, forbids and asks for whatever the
other does, and a table is when it has such a policy wherever the other has one
(`PolicyTable.AsStrictAs`). A field without a policy counts as unrestricted, so a
table gets stricter by new policies, too (`PolicyTable.AsStrictAs.insert`). A stricter
table permits no query that the other one refuses (`PolicyTable.validate_antitone`).
-/

namespace RecordQuery

open Json

/-! ## Policies -/

/-- Whether one policy has all the restrictions of another. -/
structure FieldPolicy.AsStrictAs (q p : FieldPolicy) : Prop where
  denied : ∀ operation, p.denies operation = true → q.denies operation = true
  sorting : p.sortingDisabled = true → q.sortingDisabled = true
  literal : ∀ expected, p.literalType = some expected → q.literalType = some expected

namespace FieldPolicy.AsStrictAs

variable {p q r : FieldPolicy}

theorem refl (p : FieldPolicy) : p.AsStrictAs p := ⟨fun _ => id, id, fun _ => id⟩

theorem trans (hrq : r.AsStrictAs q) (hqp : q.AsStrictAs p) : r.AsStrictAs p where
  denied operation := hrq.denied operation ∘ hqp.denied operation
  sorting := hrq.sorting ∘ hqp.sorting
  literal expected := hrq.literal expected ∘ hqp.literal expected

/-- What the stricter policy permits, the other one permits. -/
theorem permits {test : Test} (h : q.AsStrictAs p) (hq : q.Permits test) : p.Permits test := by
  intro operation literal huses
  obtain ⟨hdenied, hliteral⟩ := hq operation literal huses
  refine ⟨fun hp => hdenied ?_, fun expected actual hp => hliteral expected actual ?_⟩
  · exact denies_iff.1 (h.denied operation (denies_iff.2 hp))
  · exact h.literal expected hp

theorem sortable (h : q.AsStrictAs p) (hq : q.sortingDisabled = false) :
    p.sortingDisabled = false := by
  rw [← Bool.not_eq_true]
  intro hp
  exact nomatch hq.symm.trans (h.sorting hp)

end FieldPolicy.AsStrictAs

/-! ## Tables -/

namespace PolicyTable

/-- Whether one table has, for each policy of another, one that is as strict. -/
def AsStrictAs (t' t : PolicyTable) : Prop :=
  ∀ object field p, t.field? object field = some p →
    ∃ q, t'.field? object field = some q ∧ q.AsStrictAs p

variable {t t' t'' : PolicyTable}

theorem AsStrictAs.trans (h : t''.AsStrictAs t') (h' : t'.AsStrictAs t) : t''.AsStrictAs t := by
  intro object field p hp
  obtain ⟨q, hq, hqp⟩ := h' object field p hp
  obtain ⟨r, hr, hrq⟩ := h object field q hq
  exact ⟨r, hr, hrq.trans hqp⟩

/-- Setting a policy changes the policy of that field and of no other one. -/
theorem field?_insert (t : PolicyTable) (object field : String) (q : FieldPolicy)
    (object' field' : String) :
    (t.insert object field q).field? object' field' =
      if object' = object ∧ field' = field then some q else t.field? object' field' := by
  by_cases hobject : object' = object
  · subst hobject
    have hpolicies : (t.insert object' field q).object? object' =
        some (((t.object? object').getD .empty).insert field q) := get?_insert_self _ _ _
    rw [field?_of_object? hpolicies]
    by_cases hfield : field' = field
    · rw [if_pos ⟨rfl, hfield⟩, hfield, get?_insert_self]
    · rw [if_neg fun h => hfield h.2, get?_insert_of_ne hfield]
      cases ho : t.object? object' with
      | none => rw [field?_of_none ho]; rfl
      | some policies => rw [field?_of_object? ho]; rfl
  · rw [if_neg fun h => hobject h.1, field?, field?, object?, object?, insert,
      get?_insert_of_ne hobject]

/-- **A table gets stricter by a policy for a field** that had none, or one that is not
stricter. -/
theorem AsStrictAs.insert {object field : String} {q : FieldPolicy}
    (h : ∀ p, t.field? object field = some p → q.AsStrictAs p) :
    (t.insert object field q).AsStrictAs t := by
  intro object' field' p hp
  rw [field?_insert]
  split
  · next hsame =>
    obtain ⟨rfl, rfl⟩ := hsame
    exact ⟨q, rfl, h p hp⟩
  · exact ⟨p, hp, .refl p⟩

/-- What a table permits, by the policies of single fields. -/
theorem validate_eq_ok_iff_field? {object : String} {filter : Option Filter}
    {sorting : Option Sorting} :
    t.validate object filter sorting = .ok () ↔
      (∀ c ∈ filter.elim [] Filter.conditions, ∀ p, t.field? object c.field = some p →
        p.Permits c.test) ∧
      ∀ c ∈ sorting.elim [] Sorting.criteria, ∀ p, t.field? object c.tag = some p →
        p.sortingDisabled = false := by
  rw [validate_eq_ok]
  cases ho : t.object? object with
  | none => simp only [field?_of_none ho, reduceCtorEq, false_implies, implies_true, and_self]
  | some policies => simp only [field?_of_object? ho, Option.some.injEq, forall_eq']

/-- **A stricter table permits no query that the other one refuses**: neither a filter
nor an order, for no object. -/
theorem validate_antitone (h : t'.AsStrictAs t) (object : String) (filter : Option Filter)
    (sorting : Option Sorting) (hok : t'.validate object filter sorting = .ok ()) :
    t.validate object filter sorting = .ok () := by
  rw [validate_eq_ok_iff_field?] at hok ⊢
  obtain ⟨hfilter, hsorting⟩ := hok
  constructor
  · intro c hc p hp
    obtain ⟨q, hq, hqp⟩ := h object c.field p hp
    exact hqp.permits (hfilter c hc q hq)
  · intro c hc p hp
    obtain ⟨q, hq, hqp⟩ := h object c.tag p hp
    exact hqp.sortable (hsorting c hc q hq)

/-- The table of users with more restrictions on ages, and with a policy for teams. -/
def guardedTable : PolicyTable :=
  (usersTable.insert "User" "age"
      ((FieldPolicy.deny [.lt, .gt]).withLiteralType .number).withoutSorting).insert
    "Team" "name" .denyAll

/-- Asking for an age from 18 up passes with the restrictions, so it does without. -/
theorem guardedTable_permits :
    guardedTable.AsStrictAs usersTable ∧
      guardedTable.validate "User"
        (some (.condition ⟨["age"], .compares .ge (.ofInt 18), false⟩))
        (some ⟨[⟨"email", .ascending⟩]⟩) = .ok () ∧
      usersTable.validate "User"
        (some (.condition ⟨["age"], .compares .ge (.ofInt 18), false⟩))
        (some ⟨[⟨"email", .ascending⟩]⟩) = .ok () := by
  have hage : (usersTable.insert "User" "age"
      ((FieldPolicy.deny [.lt, .gt]).withLiteralType .number).withoutSorting).AsStrictAs
        usersTable := by
    refine .insert fun p hp => ?_
    have hp' : usersTable.field? "User" "age" =
        some ((FieldPolicy.deny [.gt]).withLiteralType .number) := by decide
    obtain rfl := Option.some.inj (hp'.symm.trans hp)
    exact ⟨by rintro ⟨⟩ <;> decide, by decide, fun _ => id⟩
  have hteams : guardedTable.AsStrictAs _ := .insert fun p hp => nomatch hp
  have hstrict := hteams.trans hage
  have hok : guardedTable.validate "User"
      (some (.condition ⟨["age"], .compares .ge (.ofInt 18), false⟩))
      (some ⟨[⟨"email", .ascending⟩]⟩) = .ok () := by decide
  exact ⟨hstrict, hok, validate_antitone hstrict _ _ _ hok⟩

end PolicyTable

end RecordQuery
