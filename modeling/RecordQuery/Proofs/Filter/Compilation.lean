import Mathlib.Data.List.Nodup
import RecordQuery.Filter.Evaluation
import RecordQuery.Proofs.Results
/-!
# The compiled patterns of a filter

The conditions of a filter add their patterns to a list one after another. What
the list keeps on the way is said by `Patterns.Keep`: the texts met so far, each
once, and each with its own compiled pattern. One condition preserves that or
is broken (`Patterns.Keep.add`, `Patterns.Keep.add_broken`), so a whole filter
ends with the patterns of all its conditions, or with the error of the leftmost
condition that is broken.
-/

namespace RecordQuery

open PatternEngine (compile)

/-! ## Patterns of conditions and filters -/

namespace Condition

/-- The pattern that a condition matches texts with. -/
def pattern? (c : Condition) : Option String :=
  match c.test with
  | .like pattern => some pattern
  | _ => none

theorem pattern?_eq_some {c : Condition} {s : String} :
    c.pattern? = some s ↔ c.test = .like s := by
  rw [pattern?]
  cases c.test <;> simp

variable [PatternEngine]

/-- Whether a condition has a pattern that does not compile. -/
def isBroken (c : Condition) : Bool := c.pattern?.any fun s => !(compile s).isOk

theorem isBroken_eq_true {c : Condition} : c.isBroken = true ↔
    ∃ s report, c.pattern? = some s ∧ compile s = .error report := by
  rw [isBroken]
  cases c.pattern? with
  | none => simp
  | some s => cases hs : compile s <;> simp [hs, Except.isOk, Except.toBool]

theorem isBroken_eq_false {c : Condition} :
    c.isBroken = false ↔ ∀ s, c.pattern? = some s → ∃ e, compile s = .ok e := by
  rw [isBroken]
  cases c.pattern? with
  | none => simp
  | some s => cases hs : compile s <;> simp [hs, Except.isOk, Except.toBool]

end Condition

/-- The patterns of a filter's conditions from left to right. -/
def Filter.patternTexts (f : Filter) : List String := f.conditions.filterMap Condition.pattern?

variable [PatternEngine]

theorem compilePattern_of_ok {s : String} {e : PatternEngine.Expression}
    (h : compile s = .ok e) : compilePattern s = .ok e := by
  rw [compilePattern, h]

theorem compilePattern_of_error {s report : String} (h : compile s = .error report) :
    compilePattern s = .error (.invalidPattern report) := by
  rw [compilePattern, h]

/-! ## One condition -/

namespace Patterns

variable {patterns : Patterns} {c : Condition} {s : String} {texts : List String}

theorem add_of_no_pattern (h : c.pattern? = none) : patterns.add c = .ok patterns := by
  rw [Condition.pattern?] at h
  rw [add]
  split
  · next hc => rw [hc] at h; cases h
  · rfl

theorem add_of_pattern (h : c.pattern? = some s) :
    patterns.add c =
      if (patterns.lookup s).isSome then .ok patterns
      else do return patterns ++ [(s, ← compilePattern s)] := by
  rw [add, Condition.pattern?_eq_some.1 h]

/-- A list of patterns that are at hand for some texts: there is nothing else
in it and nothing twice, and under each text it holds that text's own pattern. -/
structure Keep (patterns : Patterns) (texts : List String) : Prop where
  nodup : (patterns.map Prod.fst).Nodup
  mem : ∀ s, s ∈ patterns.map Prod.fst ↔ s ∈ texts
  compiled : ∀ s e, patterns.lookup s = some e → compile s = .ok e

theorem keep_nil : Keep [] [] := ⟨List.nodup_nil, fun _ => Iff.rfl, nofun⟩

theorem lookup_eq_none (h : s ∉ patterns.map Prod.fst) : patterns.lookup s = none := by
  refine List.lookup_eq_none_iff.2 fun p hp => bne_iff_ne.2 ?_
  rintro rfl
  exact h (List.mem_map_of_mem hp)

namespace Keep

/-- The pattern of a text can be looked up, and is the text's own. -/
theorem lookup (h : patterns.Keep texts) (hs : s ∈ texts) :
    ∃ e, patterns.lookup s = some e ∧ compile s = .ok e := by
  obtain ⟨p, hp, rfl⟩ := List.mem_map.1 ((h.mem s).2 hs)
  have hsome : (patterns.lookup p.1).isSome = true :=
    List.lookup_isSome_iff.2 ⟨p, hp, beq_self_eq_true p.1⟩
  obtain ⟨e, he⟩ := Option.isSome_iff_exists.1 hsome
  exact ⟨e, he, h.compiled _ e he⟩

/-- **What a condition adds**: its pattern, unless it is there already. -/
theorem add (h : patterns.Keep texts) (hc : c.isBroken = false) :
    ∃ more : Patterns, patterns.add c = .ok more ∧ more.Keep (texts ++ c.pattern?.toList) := by
  cases hp : c.pattern? with
  | none => exact ⟨patterns, add_of_no_pattern hp, by rwa [Option.toList_none, List.append_nil]⟩
  | some s =>
    obtain ⟨e, he⟩ := Condition.isBroken_eq_false.1 hc s hp
    rw [add_of_pattern hp, Option.toList_some]
    by_cases hs : s ∈ patterns.map Prod.fst
    · obtain ⟨e', he', -⟩ := h.lookup ((h.mem s).1 hs)
      refine ⟨patterns, by rw [he']; rfl, h.nodup, fun t => ?_, h.compiled⟩
      rw [h.mem, List.mem_append, List.mem_singleton]
      constructor
      · exact Or.inl
      · rintro (ht | rfl)
        · exact ht
        · exact (h.mem t).1 hs
    · have hnone := lookup_eq_none hs
      refine ⟨patterns ++ [(s, e)], ?_, ?_, fun t => ?_, fun t e' ht => ?_⟩
      · rw [hnone, compilePattern_of_ok he]
        rfl
      · rw [List.map_append, List.map_singleton, ← List.concat_eq_append]
        exact h.nodup.concat hs
      · rw [List.map_append, List.mem_append, List.mem_append, h.mem]
        rfl
      · rw [List.lookup_append, Option.or_eq_some_iff] at ht
        rcases ht with ht | ⟨-, ht⟩
        · exact h.compiled t e' ht
        · -- the new pattern is found under its own text only
          by_cases hst : t = s
          · subst hst
            rw [List.lookup_cons_self] at ht
            exact Option.some.inj ht ▸ he
          · rw [List.lookup_cons, beq_false_of_ne hst] at ht
            cases ht

/-- A pattern that does not compile is no pattern at hand, so it is compiled,
and refused. -/
theorem add_broken (h : patterns.Keep texts) (hc : c.isBroken = true) :
    ∃ s report, c.pattern? = some s ∧ compile s = .error report ∧
      patterns.add c = .error (.invalidPattern report) := by
  obtain ⟨s, report, hs, hcompile⟩ := Condition.isBroken_eq_true.1 hc
  refine ⟨s, report, hs, hcompile, ?_⟩
  have hnone : patterns.lookup s = none := by
    rw [Option.eq_none_iff_forall_ne_some]
    intro e he
    cases hcompile.symm.trans (h.compiled s e he)
  rw [add_of_pattern hs, hnone, compilePattern_of_error hcompile]
  rfl

/-! ## All conditions -/

/-- Conditions that are not broken add all their patterns. -/
theorem foldlM (h : patterns.Keep texts) {cs : List Condition}
    (hcs : cs.find? Condition.isBroken = none) :
    ∃ more : Patterns, cs.foldlM Patterns.add patterns = .ok more ∧
      more.Keep (texts ++ cs.filterMap Condition.pattern?) := by
  induction cs generalizing patterns texts with
  | nil => exact ⟨patterns, rfl, by rwa [List.filterMap_nil, List.append_nil]⟩
  | cons c cs ih =>
    have hc : c.isBroken = false := by
      have := List.find?_eq_none.1 hcs c List.mem_cons_self
      rwa [Bool.not_eq_true] at this
    obtain ⟨more, hadd, hmore⟩ := h.add hc
    rw [List.find?_cons_of_neg (Bool.not_eq_true _ ▸ hc)] at hcs
    obtain ⟨all, hall, hkeep⟩ := ih hmore hcs
    refine ⟨all, ?_, ?_⟩
    · rw [List.foldlM_cons, hadd]
      exact hall
    · have htexts : (c :: cs).filterMap Condition.pattern? =
          c.pattern?.toList ++ cs.filterMap Condition.pattern? := by
        cases hp : c.pattern? <;> simp [hp]
      rwa [htexts, ← List.append_assoc]

/-- The leftmost broken condition is the one that is refused. -/
theorem foldlM_broken (h : patterns.Keep texts) {cs : List Condition}
    (hcs : cs.find? Condition.isBroken = some c) :
    ∃ s report, c.pattern? = some s ∧ compile s = .error report ∧
      cs.foldlM Patterns.add patterns = .error (.invalidPattern report) := by
  induction cs generalizing patterns texts with
  | nil => cases hcs
  | cons d cs ih =>
    rw [List.foldlM_cons]
    by_cases hd : d.isBroken = true
    · rw [List.find?_cons_of_pos hd, Option.some.injEq] at hcs
      obtain ⟨s, report, hs, hcompile, hadd⟩ := h.add_broken hd
      exact ⟨s, report, hcs ▸ hs, hcompile, by rw [hadd]; rfl⟩
    · rw [List.find?_cons_of_neg hd] at hcs
      obtain ⟨more, hadd, hmore⟩ := h.add (Bool.eq_false_iff.2 hd)
      rw [hadd]
      exact ih hmore hcs

end Keep

end Patterns

namespace Filter

variable {f : Filter} {c : Condition}

/-- **The patterns of a filter are those of its conditions**, if none of them is broken. -/
theorem patterns_keep (h : f.conditions.find? Condition.isBroken = none) :
    ∃ patterns : Patterns, f.patterns = .ok patterns ∧ patterns.Keep f.patternTexts :=
  Patterns.keep_nil.foldlM h

/-- **The error of a filter is the report of its leftmost broken condition.** -/
theorem patterns_broken (h : f.conditions.find? Condition.isBroken = some c) :
    ∃ s report, c.pattern? = some s ∧ compile s = .error report ∧
      f.patterns = .error (.invalidPattern report) :=
  Patterns.keep_nil.foldlM_broken h

end Filter

end RecordQuery
