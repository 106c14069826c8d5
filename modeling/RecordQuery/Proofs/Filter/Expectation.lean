import RecordQuery.Proofs.Filter.Language
/-!
# What can come next

What can follow the beginning of a filter is told by what its words left open: which
part of a condition is due, or whether an operand is, and the number of brackets.
`Expectation.Step` says how a word changes that. The sentences of the grammar are
the words that lead from an operand to where a connective could follow, with no
bracket open at either end (`denotes_iff_leads`). Whatever words lead anywhere are the
beginning of a sentence (`Expectation.completable`), so a word can come next if
there is a step for it, and its kind tells whether there can be one
(`Expectation.Step.mem_due`, `Expectation.exists_step_of_mem_due`).
-/

namespace RecordQuery

/-! ## Steps -/

/-- The part of a filter that is due. Behind an operand that is a connective, a
closing bracket or the end. -/
inductive Phase where
  | operand
  | comparison
  | literal (operator : TokenKind) (h : operator.isComparison = true)
  | connective
  | done

/-- What is due, and how many brackets are open. -/
structure Expectation where
  phase : Phase
  opened : Nat

namespace Expectation

/-- At the beginning of a filter. -/
def start : Expectation := ⟨.operand, 0⟩

/-- What is due behind a word. -/
inductive Step : Expectation → Word → Expectation → Prop
  | not {n : Nat} (t : String) : Step ⟨.operand, n⟩ (.not, t) ⟨.operand, n⟩
  | leftParen {n : Nat} (t : String) : Step ⟨.operand, n⟩ (.leftParen, t) ⟨.operand, n + 1⟩
  | field {n : Nat} (path : String) : Step ⟨.operand, n⟩ (.field, path) ⟨.comparison, n⟩
  | comparison {n : Nat} {k : TokenKind} (t : String) (hk : k.isComparison = true) :
      Step ⟨.comparison, n⟩ (k, t) ⟨.literal k hk, n⟩
  | literal {n : Nat} {k : TokenKind} {hk : k.isComparison = true} {w : Word} {test : Test}
      {negated : Bool} (h : Suits k w test negated) :
      Step ⟨.literal k hk, n⟩ w ⟨.connective, n⟩
  | connective {n : Nat} {k : TokenKind} (t : String) (hk : k = .and ∨ k = .or) :
      Step ⟨.connective, n⟩ (k, t) ⟨.operand, n⟩
  | rightParen {n : Nat} (t : String) :
      Step ⟨.connective, n + 1⟩ (.rightParen, t) ⟨.connective, n⟩
  | finish (t : String) : Step ⟨.connective, 0⟩ (.finish, t) ⟨.done, 0⟩

/-- What is due behind some words. -/
inductive Leads : Expectation → List Word → Expectation → Prop
  | nil (e : Expectation) : Leads e [] e
  | cons {e e' e'' : Expectation} {w : Word} {ws : List Word} (h : e.Step w e')
      (hws : Leads e' ws e'') : Leads e (w :: ws) e''

variable {e e' e'' : Expectation} {w : Word} {us ws : List Word} {n : Nat}

/-- One thing is due behind a word. -/
theorem Step.unique (h : e.Step w e') (h' : e.Step w e'') : e' = e'' := by
  cases h with
  | connective t hk =>
    cases h' with
    | connective => rfl
    | rightParen => exact absurd hk (by decide)
    | finish => exact absurd hk (by decide)
  | rightParen t =>
    cases h' with
    | connective _ hk => exact absurd hk (by decide)
    | rightParen => rfl
  | finish t =>
    cases h' with
    | connective _ hk => exact absurd hk (by decide)
    | finish => rfl
  | _ =>
    cases h'
    rfl

theorem Step.phase_ne_done (h : e.Step w e') (hw : w.1 ≠ .finish) : e'.phase ≠ .done := by
  cases h with
  | finish t => exact absurd rfl hw
  | _ =>
    intro hdone
    cases hdone

namespace Leads

theorem single (h : e.Step w e') : Leads e [w] e' := .cons h (.nil e')

theorem append (h : Leads e us e') (h' : Leads e' ws e'') : Leads e (us ++ ws) e'' := by
  induction h with
  | nil e => exact h'
  | cons hstep _ ih => exact .cons hstep (ih h')

/-- What is due between words. -/
theorem split (h : Leads e (us ++ ws) e'') : ∃ e', Leads e us e' ∧ Leads e' ws e'' := by
  induction us generalizing e with
  | nil => exact ⟨e, .nil e, h⟩
  | cons u us ih =>
    cases h with
    | cons hstep hrest =>
      obtain ⟨e', hus, hws⟩ := ih hrest
      exact ⟨e', .cons hstep hus, hws⟩

theorem unique (h : Leads e us e') (h' : Leads e us e'') : e' = e'' := by
  induction h with
  | nil e =>
    cases h'
    rfl
  | cons hstep _ ih =>
    cases h' with
    | cons hstep' hrest' =>
      obtain rfl := hstep.unique hstep'
      exact ih hrest'

/-- The text goes on as long as its end is not among the words. -/
theorem phase_ne_done (h : Leads e us e') (he : e.phase ≠ .done)
    (hus : ∀ u ∈ us, u.1 ≠ .finish) : e'.phase ≠ .done := by
  induction h with
  | nil e => exact he
  | cons hstep _ ih =>
    obtain ⟨hu, hus⟩ := List.forall_mem_cons.1 hus
    exact ih (hstep.phase_ne_done hu) hus

/-- Where words go on, there is a step for the next one. -/
theorem exists_step (h : Leads e us e') (hmore : Leads e (us ++ w :: ws) e'') :
    ∃ e'', e'.Step w e'' := by
  obtain ⟨e₁, hus, hws⟩ := hmore.split
  obtain rfl := hus.unique h
  cases hws with
  | cons hstep _ => exact ⟨_, hstep⟩

end Leads

end Expectation

/-! ## The grammar -/

open Expectation

variable {us ws : List Word} {f g : Filter} {m n : Nat}

theorem Connective.kind_cases (c : Connective) : c.kind = .and ∨ c.kind = .or := by
  cases c
  · exact .inl rfl
  · exact .inr rfl

/-- **A part of a filter leads to where a connective could follow**, with as many
brackets open as before it. -/
theorem Derives.leads {part : Part} (h : Derives part ws f n) (m : Nat) :
    Leads ⟨.operand, m⟩ ws ⟨.connective, m⟩ := by
  induction h generalizing m with
  | operand _ ih => exact ih m
  | @join c us ws l r a b t _ _ ihl ihr =>
    have hstep : Step ⟨.connective, m⟩ (c.kind, t) ⟨.operand, m⟩ := .connective t c.kind_cases
    exact (ihl m).append (.cons hstep (ihr m))
  | not t _ ih => exact .cons (.not t) (ih m)
  | term _ ih => exact ih m
  | group t t' _ ih => exact .cons (.leftParen t) ((ih (m + 1)).append (.single (.rightParen t')))
  | condition t hk h => exact .cons (.field _) (.cons (.comparison t hk) (.single (.literal h)))

/-- One more operand joins a filter at its end. -/
theorem Denotes.joined (c : Connective) (t : String) (h : Denotes us f)
    (hw : Derives .negation ws g n) : ∃ f', Denotes (us ++ (c.kind, t) :: ws) f' := by
  obtain ⟨m, h⟩ := h
  cases c with
  | or => exact ⟨_, _, h.join (c := .or) t hw.of_negation⟩
  | and =>
    -- it belongs to the last operand of an `or`
    cases h with
    | operand h => exact ⟨_, _, .operand (h.join (c := .and) t hw)⟩
    | join t' hl hr =>
      have h := hl.join (c := .or) t' (hr.join (c := .and) t hw)
      rw [← List.cons_append, ← List.append_assoc] at h
      exact ⟨_, _, h⟩

/-- Words that join more operands and close the brackets that are open. -/
inductive Closes : Nat → List Word → Prop
  | nil : Closes 0 []
  | rightParen {n : Nat} {ws : List Word} (t : String) (h : Closes n ws) :
      Closes (n + 1) ((.rightParen, t) :: ws)
  | join {n m : Nat} {us ws : List Word} {f : Filter} (c : Connective) (t : String)
      (hd : Derives .negation us f m) (h : Closes n ws) : Closes n ((c.kind, t) :: (us ++ ws))

/-- Behind a filter with no bracket open they make a longer one. -/
theorem Closes.denotes (h : Closes n ws) (hn : n = 0) (hf : Denotes us f) :
    ∃ g, Denotes (us ++ ws) g := by
  induction h generalizing us f with
  | nil => exact ⟨f, by rwa [List.append_nil]⟩
  | rightParen t _ _ => exact absurd hn (Nat.succ_ne_zero _)
  | join c t hd _ ih =>
    obtain ⟨f', hf'⟩ := hf.joined c t hd
    obtain ⟨g, hg⟩ := ih hn hf'
    refine ⟨g, ?_⟩
    rwa [List.append_assoc, List.cons_append] at hg

/-- Behind a filter in an open bracket they make a longer one first, and close the
bracket. -/
theorem Closes.exists_rightParen (h : Closes m ws) (hm : m = n + 1) (hf : Denotes us f) :
    ∃ vs t rest g, ws = vs ++ (.rightParen, t) :: rest ∧ Denotes (us ++ vs) g ∧ Closes n rest := by
  induction h generalizing us f with
  | nil => exact absurd hm.symm (Nat.succ_ne_zero n)
  | rightParen t h _ =>
    obtain rfl := Nat.succ.inj hm
    exact ⟨[], t, _, f, rfl, by rwa [List.append_nil], h⟩
  | @join _ _ ws _ _ c t hd _ ih =>
    obtain ⟨f', hf'⟩ := hf.joined c t hd
    obtain ⟨vs, t', rest, g, rfl, hg, hrest⟩ := ih hm hf'
    refine ⟨(c.kind, t) :: (ws ++ vs), t', rest, g, ?_, ?_, hrest⟩
    · rw [List.cons_append, List.append_assoc]
    · rwa [List.append_assoc, List.cons_append] at hg

namespace Expectation

/-- Words that complete a filter. What is due is said by the grammar, as far as the
next connective. -/
def Completes : Expectation → List Word → Prop
  | ⟨.operand, n⟩, ws => ∃ us vs f m, ws = us ++ vs ∧ Derives .negation us f m ∧ Closes n vs
  | ⟨.comparison, n⟩, ws => ∃ k t w vs test negated, ws = (k, t) :: w :: vs ∧
      k.isComparison = true ∧ Suits k w test negated ∧ Closes n vs
  | ⟨.literal k _, n⟩, ws => ∃ w vs test negated, ws = w :: vs ∧
      Suits k w test negated ∧ Closes n vs
  | ⟨.connective, n⟩, ws => Closes n ws
  | ⟨.done, _⟩, _ => False

variable {e e' e'' : Expectation} {w : Word}

/-- **A word stands before what completes a filter behind it.** -/
theorem Step.completes (hstep : e.Step w e') (h : e'.Completes ws) : e.Completes (w :: ws) := by
  cases hstep with
  | not t =>
    obtain ⟨us, vs, f, m, rfl, hd, hvs⟩ := h
    exact ⟨(.not, t) :: us, vs, _, _, rfl, .not t hd, hvs⟩
  | leftParen t =>
    -- the operand is the first in the bracket, and the group is one itself
    obtain ⟨us, vs, f, m, rfl, hd, hvs⟩ := h
    obtain ⟨vs, t', rest, g, rfl, ⟨k, hg⟩, hrest⟩ :=
      hvs.exists_rightParen rfl ⟨m, .operand hd.of_negation⟩
    refine ⟨(.leftParen, t) :: (us ++ vs ++ [(.rightParen, t')]), rest, g, k + 1, ?_,
      .term (.group t t' hg), hrest⟩
    simp
  | field path =>
    obtain ⟨k, t, w, vs, test, negated, rfl, hk, hsuits, hvs⟩ := h
    exact ⟨[(.field, path), (k, t), w], vs, _, 0, rfl, .term (.condition t hk hsuits), hvs⟩
  | comparison t hk =>
    obtain ⟨w, vs, test, negated, rfl, hsuits, hvs⟩ := h
    exact ⟨_, t, w, vs, test, negated, rfl, hk, hsuits, hvs⟩
  | literal hsuits => exact ⟨w, ws, _, _, rfl, hsuits, h⟩
  | connective t hk =>
    obtain ⟨us, vs, f, m, rfl, hd, hvs⟩ := h
    rcases hk with rfl | rfl
    · exact .join .and t hd hvs
    · exact .join .or t hd hvs
  | rightParen t => exact .rightParen t h
  | finish t => exact h.elim

theorem Leads.completes (hleads : Leads e us e') (h : e'.Completes ws) :
    e.Completes (us ++ ws) := by
  induction hleads with
  | nil e => exact h
  | cons hstep _ ih => exact hstep.completes (ih h)

end Expectation

/-- **The sentences of the grammar are the words that lead through a filter.** -/
theorem denotes_iff_leads : (∃ f, Denotes ws f) ↔ Leads start ws ⟨.connective, 0⟩ := by
  constructor
  · rintro ⟨f, n, hd⟩
    exact hd.leads 0
  · intro h
    have hcomplete : start.Completes (ws ++ []) := h.completes .nil
    obtain ⟨us, vs, f, m, heq, hd, hvs⟩ := hcomplete
    rw [List.append_nil] at heq
    rw [heq]
    exact hvs.denotes rfl ⟨m, .operand hd.of_negation⟩

/-! ## The kinds that are due -/

/-- How a word of a kind can be written, a field or a literal as one of many. -/
def TokenKind.sample : TokenKind → String
  | field => "a"
  | string => ""
  | number => "0"
  | null => "null"
  | and => "and"
  | or => "or"
  | not => "not"
  | leftParen => "("
  | rightParen => ")"
  | finish => ""
  | k => k.sign

/-- **Every kind can be written**, the end of the text apart. -/
theorem TokenKind.spells_sample {k : TokenKind} (h : k ≠ .finish) :
    ∃ cs, Spells cs [(k, k.sample)] := by
  cases k with
  | field => exact ⟨['a'], Spells.fieldName (w := ['a']) (by decide)⟩
  | string => exact ⟨_, spells_quoted (s := "") (by decide)⟩
  | number =>
    have hzero : Numeral ['0'] _ := .whole (List.cons_ne_nil _ _) (by simp [Digits])
    exact ⟨_, Spells.numeral false hzero⟩
  | null => exact ⟨_, spells_null⟩
  | and => exact ⟨_, spells_keyword .and⟩
  | or => exact ⟨_, spells_keyword .or⟩
  | not => exact ⟨_, spells_not⟩
  | leftParen => exact ⟨['('], fun more p _ => Scanner.reads_leftParen more p⟩
  | rightParen => exact ⟨[')'], fun more p _ => Scanner.reads_rightParen more p⟩
  | finish => exact absurd rfl h
  | _ => exact ⟨_, Spells.sign (by decide)⟩

namespace Expectation

variable {e e' : Expectation} {w : Word} {k : TokenKind}

/-- The kinds of the words that are due. -/
def due : Expectation → List TokenKind
  | ⟨.operand, _⟩ => [.field, .not, .leftParen]
  | ⟨.comparison, _⟩ => TokenKind.comparisons
  | ⟨.literal k _, _⟩ =>
    if k = .eq ∨ k = .ne then [.string, .number, .null]
    else if k = .like ∨ k = .unlike then [.string]
    else [.number]
  | ⟨.connective, 0⟩ => [.and, .or, .finish]
  | ⟨.connective, _ + 1⟩ => [.and, .or, .rightParen]
  | ⟨.done, _⟩ => []

theorem mem_due_of_suits {test : Test} {negated : Bool} {hk : k.isComparison = true}
    (h : Suits k w test negated) : w.1 ∈ due ⟨.literal k hk, n⟩ := by
  cases h with
  | text s hk => rcases hk with rfl | rfl <;> simp [due]
  | number s hk _ => rcases hk with rfl | rfl <;> simp [due]
  | null s hk => rcases hk with rfl | rfl <;> simp [due]
  | pattern s hk => rcases hk with rfl | rfl <;> simp [due]
  | order s hk _ => rcases hk with rfl | rfl | rfl | rfl <;> simp [due]

/-- A word that there is a step for is of one of the kinds that are due. -/
theorem Step.mem_due (h : e.Step w e') : w.1 ∈ e.due := by
  cases h with
  | @connective n k t hk => rcases hk with rfl | rfl <;> cases n <;> simp [due]
  | comparison t hk => exact List.contains_iff_mem.1 hk
  | literal h => exact mem_due_of_suits h
  | _ => simp [due]

theorem exists_suits_of_mem_due {l : TokenKind} {hk : k.isComparison = true}
    (h : l ∈ due ⟨.literal k hk, n⟩) : ∃ test negated, Suits k (l, l.sample) test negated := by
  have hzero : (literalValue "0".toList).isFinite = true := by decide
  rw [due] at h
  split at h
  · next heq =>
    simp only [List.mem_cons, List.not_mem_nil, or_false] at h
    rcases h with rfl | rfl | rfl
    · exact ⟨_, _, .text _ heq⟩
    · exact ⟨_, _, .number _ heq hzero⟩
    · exact ⟨_, _, .null _ heq⟩
  · split at h
    · next hlike =>
      obtain rfl := List.mem_singleton.1 h
      exact ⟨_, _, .pattern _ hlike⟩
    · next heq hlike =>
      have horder : k.isOrder := by
        revert hk heq hlike
        cases k <;> decide
      obtain rfl := List.mem_singleton.1 h
      exact ⟨_, _, .order _ horder hzero⟩

/-- There is a step for the sample of each kind that is due. -/
theorem exists_step_of_mem_due (h : k ∈ e.due) : ∃ e', e.Step (k, k.sample) e' := by
  obtain ⟨phase, n⟩ := e
  cases phase with
  | operand =>
    simp only [due, List.mem_cons, List.not_mem_nil, or_false] at h
    rcases h with rfl | rfl | rfl
    · exact ⟨_, .field _⟩
    · exact ⟨_, .not _⟩
    · exact ⟨_, .leftParen _⟩
  | comparison => exact ⟨_, .comparison _ (List.contains_iff_mem.2 h)⟩
  | literal operator hk =>
    obtain ⟨test, negated, hsuits⟩ := exists_suits_of_mem_due h
    exact ⟨_, .literal hsuits⟩
  | connective =>
    cases n with
    | zero =>
      simp only [due, List.mem_cons, List.not_mem_nil, or_false] at h
      rcases h with rfl | rfl | rfl
      · exact ⟨_, .connective _ (Or.inl rfl)⟩
      · exact ⟨_, .connective _ (Or.inr rfl)⟩
      · exact ⟨_, .finish _⟩
    | succ n =>
      simp only [due, List.mem_cons, List.not_mem_nil, or_false] at h
      rcases h with rfl | rfl | rfl
      · exact ⟨_, .connective _ (Or.inl rfl)⟩
      · exact ⟨_, .connective _ (Or.inr rfl)⟩
      · exact ⟨_, .rightParen _⟩
  | done => exact absurd h List.not_mem_nil

/-! ## Completions -/

/-- Whether some text leads to the end of a filter. -/
def Completable (e : Expectation) : Prop :=
  ∃ cs ws, Spells cs ws ∧ Leads e ws ⟨.connective, 0⟩

/-- A word that there is a step for can begin it. -/
theorem Completable.of_step (h : e.Step (k, k.sample) e') (hk : k ≠ .finish)
    (h' : e'.Completable) : e.Completable := by
  obtain ⟨cs, hcs⟩ := TokenKind.spells_sample hk
  obtain ⟨ds, ws, hds, hws⟩ := h'
  exact ⟨_, _, hcs.blank hds, .cons h hws⟩

theorem completable_connective (n : Nat) : Completable ⟨.connective, n⟩ := by
  induction n with
  | zero => exact ⟨[], [], fun more p _ => ⟨p, .nil _⟩, .nil _⟩
  | succ n ih => exact .of_step (k := .rightParen) (.rightParen _) (by decide) ih

theorem completable_literal {hk : k.isComparison = true} (n : Nat) :
    Completable ⟨.literal k hk, n⟩ := by
  obtain ⟨l, hl, hne⟩ : ∃ l ∈ due ⟨.literal k hk, n⟩, l ≠ .finish := by
    rw [due]
    split
    · exact ⟨.null, by decide, by decide⟩
    · split
      · exact ⟨.string, by decide, by decide⟩
      · exact ⟨.number, by decide, by decide⟩
  obtain ⟨test, negated, hsuits⟩ := exists_suits_of_mem_due hl
  exact .of_step (.literal hsuits) hne (completable_connective n)

theorem completable_comparison (n : Nat) : Completable ⟨.comparison, n⟩ :=
  .of_step (k := .eq) (.comparison _ (by decide)) (by decide) (completable_literal n)

/-- **Whatever is due can be had, and closed again**, unless the text has ended. -/
theorem completable (h : e.phase ≠ .done) : e.Completable := by
  obtain ⟨phase, n⟩ := e
  cases phase with
  | operand => exact .of_step (k := .field) (.field _) (by decide) (completable_comparison n)
  | comparison => exact completable_comparison n
  | literal k hk => exact completable_literal n
  | connective => exact completable_connective n
  | done => exact absurd rfl h

end Expectation

end RecordQuery
