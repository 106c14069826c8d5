import RecordQuery.Proofs.Filter.Lexing
/-!
# The grammar of filters

Which words stand for which filter, without a parser: `Derives part ws f n`
says that the words `ws` are a part of the language and stand for `f`, with `n`
brackets and `not`s open at the same time where it is nested most deeply. The
chains are written as the grammar has them, a chain and one more operand, so
the trees lean to the left by the rules alone.
-/

namespace RecordQuery

/-- The comparisons by order. -/
def TokenKind.isOrder (k : TokenKind) : Prop := k = .lt ∨ k = .le ∨ k = .gt ∨ k = .ge

instance (k : TokenKind) : Decidable k.isOrder := inferInstanceAs (Decidable (_ ∨ _ ∨ _ ∨ _))

/-- Whether an operator and a literal make a test, and whether the operator
negates it. -/
inductive Suits : TokenKind → Word → Test → Bool → Prop
  | text {k : TokenKind} (s : String) (hk : k = .eq ∨ k = .ne) :
      Suits k (.string, s) (.equals s) (k = .ne)
  | number {k : TokenKind} (s : String) (hk : k = .eq ∨ k = .ne)
      (hs : (literalValue s.toList).isFinite = true) :
      Suits k (.number, s) (.compares .eq (literalValue s.toList)) (k = .ne)
  | null {k : TokenKind} (s : String) (hk : k = .eq ∨ k = .ne) :
      Suits k (.null, s) .isNull (k = .ne)
  | pattern {k : TokenKind} (s : String) (hk : k = .like ∨ k = .unlike) :
      Suits k (.string, s) (.like s) (k = .unlike)
  | order {k : TokenKind} (s : String) (hk : k.isOrder)
      (hs : (literalValue s.toList).isFinite = true) :
      Suits k (.number, s) (.compares k.comparison (literalValue s.toList)) false

theorem Suits.kind_ne_finish {k : TokenKind} {w : Word} {test : Test} {negated : Bool}
    (h : Suits k w test negated) : w.1 ≠ .finish := by
  cases h <;> exact nofun

/-- The parts of the language. -/
inductive Part where
  | chain (c : Connective)
  | negation
  | term

/-- What a connective joins. -/
def Connective.operand : Connective → Part
  | and => .negation
  | or => .chain .and

/-- The words of a part, the filter they stand for, and how many brackets and
`not`s they have open at the same time. -/
inductive Derives : Part → List Word → Filter → Nat → Prop
  | operand {c : Connective} {ws : List Word} {f : Filter} {n : Nat}
      (h : Derives c.operand ws f n) : Derives (.chain c) ws f n
  | join {c : Connective} {us ws : List Word} {l r : Filter} {m n : Nat} (t : String)
      (hl : Derives (.chain c) us l m) (hr : Derives c.operand ws r n) :
      Derives (.chain c) (us ++ (c.kind, t) :: ws) (.junction c l r false) (max m n)
  | not {ws : List Word} {f : Filter} {n : Nat} (t : String) (h : Derives .negation ws f n) :
      Derives .negation ((.not, t) :: ws) f.negate (n + 1)
  | term {ws : List Word} {f : Filter} {n : Nat} (h : Derives .term ws f n) :
      Derives .negation ws f n
  | group {ws : List Word} {f : Filter} {n : Nat} (t t' : String)
      (h : Derives (.chain .or) ws f n) :
      Derives .term ((.leftParen, t) :: (ws ++ [(.rightParen, t')])) f (n + 1)
  | condition {path : String} {k : TokenKind} {literal : Word} {test : Test} {negated : Bool}
      (t : String) (hk : k.isComparison = true) (h : Suits k literal test negated) :
      Derives .term [(.field, path), (k, t), literal]
        (.condition ⟨piecesOf '.' path, test, negated⟩) 0

namespace Derives

variable {ws : List Word} {f : Filter} {n : Nat}

/-- What `not` can stand before can stand in any chain. -/
theorem of_negation {c : Connective} (h : Derives .negation ws f n) : Derives c.operand ws f n := by
  cases c with
  | and => exact h
  | or => exact .operand (c := .and) h

/-- Either chain can stand in brackets. -/
theorem of_chain {c : Connective} (h : Derives (.chain c) ws f n) :
    Derives (.chain .or) ws f n := by
  cases c with
  | and => exact .operand (c := .or) h
  | or => exact h

/-- Every part has words. -/
theorem ne_nil {p : Part} (h : Derives p ws f n) : ws ≠ [] := by
  induction h with
  | operand _ ih => exact ih
  | join t _ _ => exact List.append_ne_nil_of_right_ne_nil _ (List.cons_ne_nil _ _)
  | term _ ih => exact ih
  | _ => exact List.cons_ne_nil _ _

end Derives

end RecordQuery
