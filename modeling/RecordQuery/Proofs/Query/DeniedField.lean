import Mathlib.Tactic.ByContra
import RecordQuery.Filter.Evaluation
import RecordQuery.Proofs.Query.Permission
import RecordQuery.Proofs.Record.OneMember
import RecordQuery.Proofs.Text.Paths
import RecordQuery.Reference.Engine
/-!
# What a permitted filter tells about a denied field

A policy that denies every operation on a field is meant to keep the field out
of all filters. The check looks the path of a condition up as it is written,
while a document is looked up in any letter case. So a permitted filter tells
nothing about the field as long as no condition finds it by another spelling
(`evaluate_withText_congr`), and for all permitted filters this holds exactly
when the table refuses texts under all other spellings, too.
-/

namespace RecordQuery

open Json

/-! ## Denied fields -/

section

variable {t : PolicyTable} {object f : String} {p : FieldPolicy} {g : Filter}
variable {sorting : Option Sorting}

/-- What a table denies under a name is tested under no path of that name. -/
theorem path_ne_of_denied {c : Condition} (hp : t.field? object f = some p)
    (hall : ∀ o, p.denies o = true) (hg : t.validate object (some g) sorting = .ok ())
    (hc : c ∈ g.conditions) : c.path ≠ [f] := by
  intro hpath
  have hfield : c.field = f := Condition.field_of_path hpath
  have hcheck := PolicyTable.validateFilter_eq_ok.1 (PolicyTable.validateFilter_of_validate hg)
    c hc p (hfield ▸ hp)
  rw [FieldPolicy.check, if_pos (hall _)] at hcheck
  cases hcheck

end

/-! ## One condition -/

variable {o : Members Value} {f : String}

/-- Whatever a path leads to, it depends on the member's text only if it is a
single name that stands for the member. -/
theorem resolve_withText_congr {path : List String}
    (h : ∀ n, path = [n] → ¬ StandsFor o n f) (s s' : String) :
    (Record.document (withText o f s)).resolve path =
      (Record.document (withText o f s')).resolve path := by
  cases path with
  | nil => rfl
  | cons n rest =>
    by_cases hn : StandsFor o n f
    · cases rest with
      | nil => exact absurd hn (h n rfl)
      | cons next rest =>
        -- a text is no record, so the way ends here whatever the text is
        simp only [Record.resolve, Record.resolveFrom, Record.segment, field?_of_standsFor hn]
        rfl
    · cases rest <;>
        simp only [Record.resolve, Record.resolveFrom, Record.segment,
          field?_of_not_standsFor hn s s']

theorem resolve_of_standsFor {n : String} (h : StandsFor o n f) (s : String) :
    (Record.document (withText o f s)).resolve [n] = .ok (.optional (.text s)) := by
  rw [Record.resolve, Record.resolveFrom, Record.segment, field?_of_standsFor h]

section

variable [PatternEngine]

/-- A test that takes no text says the same about all of them. -/
theorem holds_text_congr {t : Test} (patterns : Patterns) (ht : t.literalType? ≠ some .text)
    (s s' : String) :
    t.holds patterns (.optional (.text s)) = t.holds patterns (.optional (.text s')) := by
  cases t with
  | equals value => exact absurd rfl ht
  | like pattern => exact absurd rfl ht
  | compares comparison x => rfl
  | isNull => rfl

theorem verdict_withText_congr {c : Condition} (patterns : Patterns)
    (h : ∀ n, c.path = [n] → StandsFor o n f → c.test.literalType? ≠ some .text) (s s' : String) :
    c.verdict patterns (.document (withText o f s)) =
      c.verdict patterns (.document (withText o f s')) := by
  by_cases hfound : ∃ n, c.path = [n] ∧ StandsFor o n f
  · obtain ⟨n, hpath, hn⟩ := hfound
    simp only [Condition.verdict, hpath, resolve_of_standsFor hn,
      holds_text_congr patterns (h n hpath hn) s s']
  · have hpath : ∀ n, c.path = [n] → ¬ StandsFor o n f :=
      fun n hpath hn => hfound ⟨n, hpath, hn⟩
    simp only [Condition.verdict, resolve_withText_congr hpath s s']

/-! ## Filters -/

/-- **A filter that finds the member by no test for a text tells nothing about
it.** -/
theorem evaluate_withText_congr {g : Filter}
    (h : ∀ c ∈ g.conditions, ∀ n, c.path = [n] → StandsFor o n f → c.test.literalType? ≠ some .text)
    (s s' : String) :
    evaluate (some g) (.document (withText o f s)) =
      evaluate (some g) (.document (withText o f s')) := by
  have hverdict (patterns : Patterns) :
      g.verdict patterns (.document (withText o f s)) =
        g.verdict patterns (.document (withText o f s')) := by
    induction g with
    | condition c => exact verdict_withText_congr patterns (h c List.mem_cons_self) s s'
    | junction connective l r negated ihl ihr =>
      rw [Filter.conditions_junction, List.forall_mem_append] at h
      rw [Filter.verdict, Filter.verdict, ihl h.1, ihr h.2]
  simp only [evaluate, hverdict]

/-! ## Permitted filters -/

variable {t : PolicyTable} {object : String} {p : FieldPolicy}

/-- Equality tells two texts apart. -/
theorem evaluate_equals_ne {n : String} (h : StandsFor o n f) :
    evaluate (some (.condition ⟨[n], .equals "a", false⟩)) (.document (withText o f "a")) ≠
      evaluate (some (.condition ⟨[n], .equals "a", false⟩)) (.document (withText o f "")) := by
  have hvalue (s : String) :
      evaluate (some (.condition ⟨[n], .equals "a", false⟩)) (.document (withText o f s)) =
        .ok ((s == "a") != false) := by
    simp only [evaluate, Filter.verdict, Condition.verdict, resolve_of_standsFor h]
    rfl
  rw [hvalue, hvalue]
  exact fun heq => absurd (Except.ok.inj heq) (by decide)

/-- A pattern tells two texts apart if it matches in just one of them. -/
theorem evaluate_like_ne {n pattern s s' : String} {e : PatternEngine.Expression}
    (he : PatternEngine.compile pattern = .ok e)
    (hne : PatternEngine.isIn e s ≠ PatternEngine.isIn e s') (h : StandsFor o n f) :
    evaluate (some (.condition ⟨[n], .like pattern, false⟩)) (.document (withText o f s)) ≠
      evaluate (some (.condition ⟨[n], .like pattern, false⟩)) (.document (withText o f s')) := by
  have hpatterns : Filter.patterns (.condition ⟨[n], .like pattern, false⟩) =
      .ok [(pattern, e)] := by
    have hcompile : compilePattern pattern = .ok e := by rw [compilePattern, he]
    show (do return ([] : Patterns) ++ [(pattern, ← compilePattern pattern)]) >>= _ = _
    rw [hcompile]
    rfl
  have hvalue (s : String) :
      evaluate (some (.condition ⟨[n], .like pattern, false⟩)) (.document (withText o f s)) =
        .ok (PatternEngine.isIn e s != false) := by
    have hlookup : List.lookup pattern [(pattern, e)] = some e := List.lookup_cons_self
    simp only [evaluate, hpatterns, Filter.verdict, Condition.verdict, resolve_of_standsFor h, bind,
      Except.bind, Test.holds, FieldValue.dereference, hlookup]
    rfl
  rw [hvalue, hvalue, Bool.bne_false, Bool.bne_false]
  exact fun heq => hne (Except.ok.inj heq)

/-- A table that permits a test for a text under a name permits a filter that
tells two texts under that name apart. -/
theorem exists_permitted_filter (hengine : PatternEngine.TellsTextsApart) {n : String}
    (hn : ¬ ∃ q, t.field? object n = some q ∧ q.refusesTexts = true)
    (hstands : StandsFor o n f) :
    ∃ g s s', t.validate object (some g) none = .ok () ∧
      evaluate (some g) (.document (withText o f s)) ≠
        evaluate (some g) (.document (withText o f s')) := by
  have hpermit (test : Test) (hq : ∀ q, t.field? object n = some q →
      q.check ⟨[n], test, false⟩ = .ok ()) :
      t.validate object (some (.condition ⟨[n], test, false⟩)) none = .ok () := by
    refine PolicyTable.validate_filter (PolicyTable.validateFilter_eq_ok.2 ?_)
    rw [Filter.conditions, List.forall_mem_singleton, Condition.field_of_path rfl]
    exact hq
  have hequals := evaluate_equals_ne hstands
  obtain ⟨pattern, e, he, s, s', hne⟩ := hengine
  have hlike := evaluate_like_ne he hne hstands
  cases hfield : t.field? object n with
  | none =>
    refine ⟨_, _, _, hpermit (.equals "a") fun q hq => ?_, hequals⟩
    cases hfield.symm.trans hq
  | some q =>
    have hrefuses : ¬ q.refusesTexts = true := fun h => hn ⟨q, hfield, h⟩
    have hsome {r : FieldPolicy} (hr : t.field? object n = some r) : r = q :=
      Option.some.inj (hr.symm.trans hfield)
    rcases q.check_of_not_refusesTexts hrefuses [n] "a" pattern with h | h
    · exact ⟨_, _, _, hpermit (.equals "a") fun r hr => hsome hr ▸ h, hequals⟩
    · exact ⟨_, _, _, hpermit (.like pattern) fun r hr => hsome hr ▸ h, hlike⟩

/-- **A permitted filter tells nothing about a denied field, unless it finds it
by another spelling.** For all permitted filters together, that is so exactly
when the table refuses texts under every other spelling of the field. A pattern that
matches in some texts only is all that is asked of the engine. -/
theorem denied_field_hidden (hengine : PatternEngine.TellsTextsApart)
    (hp : t.field? object f = some p)
    (hall : ∀ operation, p.denies operation = true) :
    (∀ (g : Filter) (sorting : Option Sorting), t.validate object (some g) sorting = .ok () →
      ∀ o : Members Value,
      (∀ c ∈ g.conditions, ∀ n, c.path = [n] → n ≠ f → ¬ StandsFor o n f) →
      ∀ s s', evaluate (some g) (.document (withText o f s)) =
        evaluate (some g) (.document (withText o f s'))) ∧
    ((∀ (g : Filter) (sorting : Option Sorting), t.validate object (some g) sorting = .ok () →
        ∀ (o : Members Value) s s', evaluate (some g) (.document (withText o f s)) =
          evaluate (some g) (.document (withText o f s'))) ↔
      ∀ n, n ≠ f → sameUpToCase f n = true →
        ∃ q, t.field? object n = some q ∧ q.refusesTexts = true) := by
  refine ⟨fun g sorting hg o hother s s' => ?_, ⟨fun h n hne hsame => ?_,
    fun h g sorting hg o s s' => ?_⟩⟩
  · refine evaluate_withText_congr (fun c hc n hpath hn => ?_) s s'
    by_cases hne : n = f
    · exact absurd (hne ▸ hpath) (path_ne_of_denied hp hall hg hc)
    · exact absurd hn (hother c hc n hpath hne)
  · -- alone in a document, the member is found by every spelling
    by_contra hn
    obtain ⟨g, s, s', hg, hdiffer⟩ := exists_permitted_filter hengine hn (standsFor_empty hsame)
    exact hdiffer (h g none hg .empty s s')
  · -- the name itself is denied, and the others are not tested for texts
    refine evaluate_withText_congr (fun c hc n hpath hn => ?_) s s'
    have hne : n ≠ f := fun hne => path_ne_of_denied hp hall hg hc (hne ▸ hpath)
    obtain ⟨q, hq, hrefuses⟩ := h n hne hn.sameUpToCase
    have hfield : c.field = n := Condition.field_of_path hpath
    exact FieldPolicy.not_text_of_refusesTexts hrefuses
      (PolicyTable.validateFilter_eq_ok.1 (PolicyTable.validateFilter_of_validate hg) c hc q
        (hfield ▸ hq))

end

section

open Reference

/-- A table that denies the field `secret` of documents. -/
def secretTable : PolicyTable := PolicyTable.empty.insert "Document" "secret" .denyAll

theorem secretTable_denies :
    secretTable.field? "Document" "secret" = some .denyAll ∧
      ∀ operation, FieldPolicy.denyAll.denies operation = true :=
  ⟨by decide, fun operation => by cases operation <;> decide⟩

/-- The table lets a filter through that reads the field in capitals. -/
theorem secretTable_tells :
    secretTable.field? "Document" "secret" = some .denyAll ∧
      (∀ operation, FieldPolicy.denyAll.denies operation = true) ∧
      secretTable.validate "Document"
        (some (.condition ⟨["SECRET"], .equals "a", false⟩)) none = .ok () ∧
      evaluate (some (.condition ⟨["SECRET"], .equals "a", false⟩))
          (.document (withText .empty "secret" "a")) ≠
        evaluate (some (.condition ⟨["SECRET"], .equals "a", false⟩))
          (.document (withText .empty "secret" "")) :=
  ⟨secretTable_denies.1, secretTable_denies.2, rfl,
    evaluate_equals_ne (standsFor_empty (by decide))⟩

/-- The pattern of one letter matches in that letter, but not in the empty text. -/
theorem engine_tellsTextsApart : PatternEngine.TellsTextsApart := by
  have hmatch : (Pattern.compile? "a").map (·.isIn "a") = some true := by decide
  have hmiss : (Pattern.compile? "a").map (·.isIn "") = some false := by decide
  obtain ⟨e, he, hmatch⟩ := Option.map_eq_some_iff.1 hmatch
  rw [he, Option.map_some, Option.some.injEq] at hmiss
  refine ⟨"a", e, ?_, "a", "", ?_⟩
  · show (Pattern.compile? "a").elim _ Except.ok = .ok e
    rw [he]
    rfl
  · show e.isIn "a" ≠ e.isIn ""
    rw [hmatch, hmiss]
    exact Bool.false_ne_true.symm

/-- The table keeps the field from a filter that reads another one. -/
theorem secretTable_hides :
    PatternEngine.TellsTextsApart ∧ secretTable.field? "Document" "secret" = some .denyAll ∧
      (∀ operation, FieldPolicy.denyAll.denies operation = true) ∧
      evaluate (some (.condition ⟨["public"], .equals "a", false⟩))
          (.document (withText .empty "secret" "a")) =
        evaluate (some (.condition ⟨["public"], .equals "a", false⟩))
          (.document (withText .empty "secret" "")) := by
  have hhidden :=
    denied_field_hidden engine_tellsTextsApart secretTable_denies.1 secretTable_denies.2
  refine ⟨engine_tellsTextsApart, secretTable_denies.1, secretTable_denies.2,
    hhidden.1 _ none rfl .empty ?_ "a" ""⟩
  intro c hc n hpath _ hn
  obtain rfl := List.mem_singleton.1 hc
  obtain rfl : "public" = n := List.singleton_inj.1 hpath
  exact absurd hn.sameUpToCase (by decide)

end

end RecordQuery
