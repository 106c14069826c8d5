/-!
# Results of steps that may fail

How a chain of steps is taken apart, and how a result is had without the proof
that comes with it: functions that recur on what is left return the proof that
less is left, and nothing said about their results depends on it.
-/

namespace RecordQuery

variable {α β ε : Type}

/-- A result without the proof that comes with it. -/
def plain {p : α → Prop} (r : Except ε { a // p a }) : Except ε α := r.map Subtype.val

/-- What is returned has the property that comes with it. -/
theorem of_plain_eq_ok {p : α → Prop} {r : Except ε { a // p a }} {a : α}
    (h : plain r = .ok a) : p a := by
  cases r with
  | error e => cases h
  | ok b =>
    cases h
    exact b.2

/-- What is returned without the proof is returned with it. -/
theorem exists_eq_ok_of_plain {p : α → Prop} {r : Except ε { a // p a }} {a : α}
    (h : plain r = .ok a) : ∃ ha, r = .ok ⟨a, ha⟩ := by
  cases r with
  | error e => cases h
  | ok b =>
    cases h
    exact ⟨b.2, rfl⟩

/-- One step after another, without the proofs. -/
theorem plain_bind {p : α → Prop} {q : β → Prop} {m : Except ε { a // p a }}
    {k : { a // p a } → Except ε { b // q b }} {m' : Except ε α} {k' : α → Except ε β}
    (hm : plain m = m') (hk : ∀ a, plain (k a) = k' a.1) : plain (m >>= k) = m' >>= k' := by
  subst hm
  cases m with
  | error e => rfl
  | ok a => exact hk a

/-- A step that succeeds, and the one after it. -/
theorem bind_eq_ok {m : Except ε α} {k : α → Except ε β} {b : β} (h : m >>= k = .ok b) :
    ∃ a, m = .ok a ∧ k a = .ok b := by
  cases m with
  | error e => cases h
  | ok a => exact ⟨a, rfl, h⟩

theorem bind_eq_ok_iff {m : Except ε α} {k : α → Except ε β} {b : β} :
    m >>= k = .ok b ↔ ∃ a, m = .ok a ∧ k a = .ok b := by
  refine ⟨bind_eq_ok, ?_⟩
  rintro ⟨a, rfl, h⟩
  exact h

/-- A step that succeeds does not fail. -/
theorem ne_error_of_eq_ok {m : Except ε α} {a : α} {e : ε} (h : m = .ok a) : m ≠ .error e := by
  rw [h]
  exact nofun

/-- A step that does not fail succeeds. -/
theorem exists_eq_ok {m : Except ε α} (h : ∀ e, m ≠ .error e) : ∃ a, m = .ok a := by
  cases m with
  | error e => exact absurd rfl (h e)
  | ok a => exact ⟨a, rfl⟩

/-- Steps fail with the first of them that fails. -/
theorem bind_eq_error {m : Except ε α} {k : α → Except ε β} {e : ε} :
    m >>= k = .error e ↔ m = .error e ∨ ∃ a, m = .ok a ∧ k a = .error e := by
  cases m with
  | error e' => exact ⟨fun h => .inl (congrArg _ (Except.error.inj h)), fun h =>
      h.elim (fun h => congrArg _ (Except.error.inj h)) nofun⟩
  | ok a => exact ⟨fun h => .inr ⟨a, rfl, h⟩, fun h => h.elim nofun fun ⟨_, rfl, h⟩ => h⟩

/-- A check passes unless it fails. -/
theorem eq_ok_iff_forall_ne_error {m : Except ε Unit} : m = .ok () ↔ ∀ e, m ≠ .error e := by
  cases m with
  | error e => exact iff_of_false nofun fun h => h e rfl
  | ok a => exact iff_of_true rfl nofun

/-- A step that is followed by no other fails by itself. -/
theorem bind_return_eq_error {m : Except ε α} {f : α → β} {e : ε} :
    (do let a ← m; return f a) = Except.error e ↔ m = .error e := by
  cases m with
  | error e' =>
    exact ⟨fun h => congrArg _ (Except.error.inj h), fun h => congrArg _ (Except.error.inj h)⟩
  | ok a => exact iff_of_false nofun nofun

/-- Whether a step fails. -/
def fails (m : Except ε α) : Bool :=
  match m with
  | .error _ => true
  | .ok _ => false

theorem fails_eq_true {m : Except ε α} : fails m = true ↔ ∃ e, m = .error e := by
  cases m <;> simp [fails]

theorem fails_eq_false {m : Except ε α} : fails m = false ↔ ∃ a, m = .ok a := by
  cases m <;> simp [fails]

end RecordQuery
