import RecordQuery.Json.Members
import RecordQuery.Record.FieldValue
/-!
# Documents that differ in one member

A document with a member `f` put in is looked up by names, and a name either
finds `f`, whatever it holds, or finds something that does not depend on it
(`findMember?_insert`). The names that find `f` are `f` itself and, where no key
comes before it, its other spellings: `StandsFor`.
-/

namespace RecordQuery

namespace Json

variable {α : Type}

/-- What is put stands at a place that depends on its key alone. -/
theorem exists_put_eq (key : String) (members : List (String × α)) :
    ∃ before behind, ∀ value, put key value members = before ++ (key, value) :: behind := by
  induction members with
  | nil => exact ⟨[], [], fun _ => rfl⟩
  | cons m rest ih =>
    obtain ⟨before, behind, hrest⟩ := ih
    simp only [put]
    split
    · exact ⟨[], rest, fun _ => rfl⟩
    · split
      · exact ⟨[], m :: rest, fun _ => rfl⟩
      · exact ⟨m :: before, behind, fun value => congrArg (m :: ·) (hrest value)⟩

/-- A search among keys finds the member at that place or does not depend on
it. -/
theorem find?_insert (p : String → Bool) (key : String) (before behind : List (String × α)) :
    (∃ r, ∀ value, (before ++ (key, value) :: behind).find? (fun m => p m.1) = r) ∨
      (p key = true ∧
        ∀ value, (before ++ (key, value) :: behind).find? (fun m => p m.1) =
          some (key, value)) := by
  cases hbefore : before.find? (fun m => p m.1) with
  | some m =>
    refine Or.inl ⟨some m, fun value => ?_⟩
    rw [List.find?_append, hbefore]
    rfl
  | none =>
    by_cases hp : p key = true
    · refine Or.inr ⟨hp, fun value => ?_⟩
      simp only [List.find?_append, hbefore, List.find?_cons, hp, Option.none_or]
    · refine Or.inl ⟨behind.find? (fun m => p m.1), fun value => ?_⟩
      simp only [List.find?_append, hbefore, List.find?_cons, hp, Option.none_or]

/-- Looking up the name `n` finds the member `f`, whatever it holds. -/
def StandsFor (o : Members Value) (n f : String) : Prop :=
  ∀ v, findMember? n (o.insert f v).list = some v

/-- **A name finds the member or something that does not depend on it.** -/
theorem findMember?_insert (o : Members Value) (n f : String) :
    (∃ r, ∀ v, findMember? n (o.insert f v).list = r) ∨
      (sameUpToCase f n = true ∧ StandsFor o n f) := by
  obtain ⟨before, behind, hput⟩ := exists_put_eq f o.list
  have hlist (v : Value) : (o.insert f v).list = before ++ (f, v) :: behind := hput v
  simp only [StandsFor, findMember?, member?, hlist]
  -- the letter case is ignored only where no key is the name itself
  rcases find?_insert (· == n) f before behind with ⟨r, hr⟩ | ⟨hf, hfind⟩
  · simp only [hr]
    cases r with
    | some m => exact Or.inl ⟨some m.2, fun _ => rfl⟩
    | none =>
      rcases find?_insert (fun k => sameUpToCase k n) f before behind with ⟨r', hr'⟩ | ⟨hf, hfind⟩
      · exact Or.inl ⟨r'.map (·.2), fun v => by rw [hr' v]; rfl⟩
      · exact Or.inr ⟨hf, fun v => by rw [hfind v]; rfl⟩
  · have heq : f = n := beq_iff_eq.1 hf
    refine Or.inr ⟨?_, fun v => by rw [hfind v]; rfl⟩
    rw [heq, sameUpToCase, beq_self_eq_true]

/-- The names that find a member are its spellings. -/
theorem StandsFor.sameUpToCase {o : Members Value} {n f : String} (h : StandsFor o n f) :
    sameUpToCase f n = true := by
  rcases findMember?_insert o n f with ⟨r, hr⟩ | ⟨hsame, -⟩
  · exact nomatch Option.some.inj ((h .null).symm.trans ((hr .null).trans
      ((hr (.bool true)).symm.trans (h (.bool true)))))
  · exact hsame

/-- Alone in a document, a member is found by all of them. -/
theorem standsFor_empty {n f : String} (h : RecordQuery.sameUpToCase f n = true) :
    StandsFor .empty n f := by
  intro v
  show findMember? n [(f, v)] = some v
  cases heq : f == n
  · simp only [findMember?, member?, List.find?_cons, heq, h]
    rfl
  · simp only [findMember?, member?, List.find?_cons, heq]
    rfl

/-- A document in which the member `f` holds a text. -/
def withText (o : Members Value) (f s : String) : Value := .object (o.insert f (.string s)).list

end Json

open Json

/-- Documents that are equal, except that the member `f` may hold different
texts. -/
inductive AlikeBut (f : String) : Value → Value → Prop
  | same (v : Value) : AlikeBut f v v
  | texts (o : Members Value) (s s' : String) : AlikeBut f (withText o f s) (withText o f s')

variable {o : Members Value} {n f : String}

/-- A name that stands for the member finds its text. -/
theorem field?_of_standsFor (h : StandsFor o n f) (s : String) :
    (Record.document (withText o f s)).field? n = some (.optional (.text s)) := by
  rw [withText, Record.field?, Value.field?, h]
  rfl

/-- Any other name finds the same in all such documents. -/
theorem field?_of_not_standsFor (h : ¬ StandsFor o n f) (s s' : String) :
    (Record.document (withText o f s)).field? n = (Record.document (withText o f s')).field? n := by
  rcases findMember?_insert o n f with ⟨r, hr⟩ | ⟨-, hstands⟩
  · simp only [withText, Record.field?, Value.field?, hr]
  · exact absurd hstands h

end RecordQuery
