import RecordQuery.Proofs.Filter.Parsing
import RecordQuery.Proofs.Text.Paths
/-!
# The text of a filter read back

A filter's own text spells the words of one derivation of it
(`Filter.spells_text`, `Filter.derives_words`), as long as its conditions can be
written down at all: the language has no escapes, so a path must be a field
name, a text must leave one of the quotes free, and a number must be finite
(`Condition.Writable`). Every bracket and `not` of the text is open inside it,
`Filter.nesting` of them at once, and so the text is read back under every
limit from twice the depth on, while under the depth alone it may not be.
-/

namespace RecordQuery

/-! ## What can be written -/

/-- Whether a test can be written: there is a quote for its text, and its
number is finite. -/
def Test.Writable : Test → Prop
  | .equals s => '\'' ∉ s.toList ∨ '"' ∉ s.toList
  | .like s => '\'' ∉ s.toList ∨ '"' ∉ s.toList
  | .compares _ x => x.isFinite = true
  | .isNull => True

instance : (t : Test) → Decidable t.Writable
  | .equals _ => inferInstanceAs (Decidable (_ ∨ _))
  | .like _ => inferInstanceAs (Decidable (_ ∨ _))
  | .compares _ x => inferInstanceAs (Decidable (x.isFinite = true))
  | .isNull => inferInstanceAs (Decidable True)

/-- Whether a condition can be written: its path is the name of a field, with
points between the segments only, and its test can be written. -/
def Condition.Writable (c : Condition) : Prop :=
  c.path ≠ [] ∧ (∀ segment ∈ c.path, '.' ∉ segment.toList) ∧ FieldName c.field.toList ∧
    c.test.Writable

instance (c : Condition) : Decidable c.Writable := inferInstanceAs (Decidable (_ ∧ _ ∧ _ ∧ _))

/-- A number is finite if one that equals it is. -/
theorem Binary64.isFinite_of_eq {x y : Binary64} (h : x.eq y = true) (hy : y.isFinite = true) :
    x.isFinite = true := by
  simp only [Binary64.eq, Bool.and_eq_true, beq_iff_eq] at h
  simp only [isFinite, decide_eq_true_eq] at hy ⊢
  -- one position has one code, but for the two zeros, whose codes are equal, too
  have hcode : x.code = y.code := by
    have hpos := h.2
    simp only [position] at hpos
    split at hpos <;> split at hpos <;> omega
  rwa [hcode]

/-- Whether a test can be written does not tell apart what is equal. -/
theorem Test.Writable.of_same {a b : Test} (h : a.same b = true) (hb : b.Writable) :
    a.Writable := by
  cases a <;> cases b <;>
    simp only [Test.same, Bool.and_eq_true, beq_iff_eq, Bool.false_eq_true] at h
  case equals.equals => exact h ▸ hb
  case like.like => exact h ▸ hb
  case compares.compares => exact Binary64.isFinite_of_eq h.2 hb
  case isNull.isNull => exact trivial

theorem Condition.Writable.of_same {a b : Condition} (h : a.same b = true) (hb : b.Writable) :
    a.Writable := by
  simp only [Condition.same, Bool.and_eq_true, beq_iff_eq] at h
  obtain ⟨hne, hdots, hname, htest⟩ := hb
  rw [← h.1.1] at hne hdots
  rw [Condition.field, ← h.1.1] at hname
  exact ⟨hne, hdots, hname, htest.of_same h.1.2⟩

theorem Filter.writable_of_same {f g : Filter} (h : f.same g = true)
    (hg : ∀ c ∈ g.conditions, c.Writable) : ∀ c ∈ f.conditions, c.Writable := by
  induction f generalizing g with
  | condition a =>
    cases g with
    | condition b =>
      simp only [Filter.conditions, List.mem_singleton, forall_eq] at hg ⊢
      exact hg.of_same h
    | junction o l r n => exact absurd h Bool.false_ne_true
  | junction o l r n ihl ihr =>
    cases g with
    | condition b => exact absurd h Bool.false_ne_true
    | junction o' l' r' n' =>
      simp only [Filter.same, Bool.and_eq_true] at h
      rw [Filter.conditions_junction, List.forall_mem_append] at hg ⊢
      exact ⟨ihl h.1.1.1 hg.1, ihr h.1.1.2 hg.2⟩

/-- The number of a test that can be written is finite. -/
theorem Test.Writable.finite {t : Test} (h : t.Writable) : t.Finite := by
  cases t with
  | compares c x => exact h
  | _ => exact trivial

theorem Filter.finite_of_writable {f : Filter} (h : ∀ c ∈ f.conditions, c.Writable) : f.Finite := by
  intro c hc
  obtain ⟨-, -, -, htest⟩ := h c hc
  exact htest.finite

/-- A filter that can be written is the same as itself. -/
theorem Filter.same_self {f : Filter} (h : ∀ c ∈ f.conditions, c.Writable) : f.same f = true :=
  (finite_of_writable h).same_self

theorem Filter.writable_negate {f : Filter} (h : ∀ c ∈ f.conditions, c.Writable) :
    ∀ c ∈ f.negate.conditions, c.Writable := by
  cases f with
  | condition c =>
    simp only [Filter.negate, Filter.conditions, List.mem_singleton, forall_eq] at h ⊢
    exact h
  | junction o l r n => exact h

/-! ## The words of a filter -/

/-- The operator that a comparison is written with. -/
def Comparison.kind : Comparison → TokenKind
  | eq => .eq
  | lt => .lt
  | le => .le
  | gt => .gt
  | ge => .ge

namespace Condition

/-- Whether the condition's negation is written in front of it, the order
having no operator that says it. -/
def inFront (c : Condition) : Bool :=
  match c.test with
  | .compares .eq _ => false
  | .compares _ _ => c.negated
  | _ => false

/-- The operator that a condition is written with. -/
def operator (c : Condition) : TokenKind :=
  match c.test with
  | .like _ => if c.negated then .unlike else .like
  | .compares .eq _ => if c.negated then .ne else .eq
  | .compares comparison _ => comparison.kind
  | _ => if c.negated then .ne else .eq

/-- The text of the condition's literal. -/
def literalText (c : Condition) : String :=
  match c.test with
  | .equals value => quoted value
  | .like pattern => quoted pattern
  | .compares _ x => literalLayout.text x
  | .isNull => "null"

/-- The condition's literal as a word. -/
def literal (c : Condition) : Word :=
  match c.test with
  | .equals value => (.string, value)
  | .like pattern => (.string, pattern)
  | .compares _ x => (.number, literalLayout.text x)
  | .isNull => (.null, "null")

/-- The words of a condition's text. -/
def words (c : Condition) : List Word :=
  (if c.inFront then [(.not, "not")] else []) ++
    [(.field, c.field), (c.operator, c.operator.sign), c.literal]

theorem isComparison_operator (c : Condition) : c.operator.isComparison = true := by
  obtain ⟨path, test, negated⟩ := c
  cases negated <;> rcases test with s | s | ⟨_ | _ | _ | _ | _, x⟩ | _ <;> rfl

/-- A condition's text, part by part. -/
theorem toList_text (c : Condition) :
    c.text.toList = (if c.inFront then "not ".toList else []) ++
      (c.field.toList ++ ' ' :: (c.operator.sign.toList ++ ' ' :: c.literalText.toList)) := by
  obtain ⟨path, test, negated⟩ := c
  cases negated <;> rcases test with s | s | ⟨_ | _ | _ | _ | _, x⟩ | _ <;>
    simp [text, inFront, operator, literalText, Comparison.kind, TokenKind.sign, field,
      Comparison.operator]

end Condition

/-! ## Literals -/

/-- Quotes that leave the text alone make it a word. -/
theorem spells_quoted {s : String} (h : '\'' ∉ s.toList ∨ '"' ∉ s.toList) :
    Spells (quoted s).toList [(.string, s)] := by
  have hspells {q : Char} (hq : q = '\'' ∨ q = '"') (hs : q ∉ s.toList) :
      Spells (q :: (s.toList ++ [q])) [(.string, s)] := by
    have h := Spells.string hq hs
    rwa [String.ofList_toList] at h
  by_cases hquote : '\'' ∈ s.toList
  · have htext : (quoted s).toList = '"' :: (s.toList ++ ['"']) := by
      simp [quoted, hquote]
    rw [htext]
    exact hspells (Or.inr rfl) (h.resolve_left (not_not_intro hquote))
  · have htext : (quoted s).toList = '\'' :: (s.toList ++ ['\'']) := by
      simp [quoted, hquote]
    rw [htext]
    exact hspells (Or.inl rfl) hquote

theorem spells_number {x : Binary64} (hx : x.isFinite = true) :
    Spells (literalLayout.text x).toList [(.number, literalLayout.text x)] := by
  obtain ⟨d, hd, -⟩ := Layout.magnitude_numeral (l := literalLayout) rfl hx
  have h := Spells.numeral x.negative hd
  rwa [← literalLayout.toList_text hx, String.ofList_toList] at h

/-- The value of a literal is the number its numeral reads as. -/
theorem literalValue_numeral {cs : List Char} {d : Decimal} (negative : Bool)
    (h : Numeral cs d) :
    literalValue ((if negative then ['-'] else []) ++ cs) = d.toBinary64 negative := by
  have hvalue : (Decimal.ofParts (cs.takeWhile Char.isDigit)
      ((cs.dropWhile Char.isDigit).drop 1) 0) = d := by
    cases h with
    | whole hne hw =>
      rw [List.takeWhile_eq_self_iff.2 hw, List.dropWhile_eq_nil_iff.2 hw]
      rfl
    | @point w f hne hw hf =>
      have hdot : ∀ c ∈ ('.' :: f).head?, c.isDigit = false := by
        rintro c ⟨⟩
        decide
      rw [hw.takeWhile_append hdot, hw.dropWhile_append hdot]
      rfl
  obtain ⟨c, ds, rfl, hc⟩ := h.exists_cons
  cases negative
  · have hne : ∀ rest, c :: ds ≠ '-' :: rest := by
      rintro rest ⟨⟩
      exact absurd hc (by decide)
    simp only [Bool.false_eq_true, if_false, List.nil_append, literalValue]
    rw [hvalue]
  · simp only [if_true, List.singleton_append, literalValue]
    rw [hvalue]

/-- **A finite number is the value of its text.** -/
theorem literalValue_text {x : Binary64} (hx : x.isFinite = true) :
    literalValue (literalLayout.text x).toList = x := by
  obtain ⟨d, hd, hread⟩ := Layout.magnitude_numeral (l := literalLayout) rfl hx
  rw [literalLayout.toList_text hx, literalValue_numeral _ hd, hread]

/-! ## The text of a condition -/

theorem spells_not : Spells "not".toList [(.not, "not")] :=
  Spells.name (c := 'n') (w := ['o', 't']) (by decide) (by decide) (by decide) rfl

theorem spells_null : Spells "null".toList [(.null, "null")] :=
  Spells.name (c := 'n') (w := ['u', 'l', 'l']) (by decide) (by decide) (by decide) rfl

theorem spells_keyword (o : Connective) : Spells o.keyword.toList [(o.kind, o.keyword)] := by
  cases o with
  | and => exact Spells.name (c := 'a') (w := ['n', 'd']) (by decide) (by decide) (by decide) rfl
  | or => exact Spells.name (c := 'o') (w := ['r']) (by decide) (by decide) (by decide) rfl

/-- A text with a `not` in front of it, if it is wanted. -/
theorem Spells.negated {cs : List Char} {ws : List Word} (negated : Bool) (h : Spells cs ws) :
    Spells ((if negated then "not ".toList else []) ++ cs)
      ((if negated then [(.not, "not")] else []) ++ ws) := by
  cases negated
  · exact h
  · exact spells_not.blank h

namespace Condition

variable {c : Condition}

theorem spells_literal (h : c.test.Writable) : Spells c.literalText.toList [c.literal] := by
  obtain ⟨path, test, negated⟩ := c
  cases test with
  | equals value => exact spells_quoted h
  | like pattern => exact spells_quoted h
  | compares comparison x => exact spells_number h
  | isNull => exact spells_null

/-- **A condition's text spells its words.** -/
theorem spells_text (h : c.Writable) : Spells c.text.toList c.words := by
  obtain ⟨-, -, hname, htest⟩ := h
  have hfield := Spells.fieldName hname
  rw [String.ofList_toList] at hfield
  rw [toList_text]
  exact (hfield.blank ((Spells.sign c.isComparison_operator).blank
    (spells_literal htest))).negated c.inFront

/-- The literal suits the operator, which says the rest of the negation. -/
theorem suits_literal (h : c.test.Writable) :
    Suits c.operator c.literal c.test (c.negated && !c.inFront) := by
  obtain ⟨path, test, negated⟩ := c
  cases test with
  | equals value =>
    cases negated
    · exact .text value (Or.inl rfl)
    · exact .text value (Or.inr rfl)
  | like pattern =>
    cases negated
    · exact .pattern pattern (Or.inl rfl)
    · exact .pattern pattern (Or.inr rfl)
  | compares comparison x =>
    have hvalue := literalValue_text h
    have hfinite : (literalValue (literalLayout.text x).toList).isFinite = true := by
      rw [hvalue]
      exact h
    have hequal {k : TokenKind} (hk : k = .eq ∨ k = .ne) :
        Suits k (.number, literalLayout.text x) (.compares .eq x) (k = .ne) := by
      have hsuits := Suits.number (literalLayout.text x) hk hfinite
      rwa [hvalue] at hsuits
    have horder {k : TokenKind} (hk : k.isOrder) :
        Suits k (.number, literalLayout.text x) (.compares k.comparison x) false := by
      have hsuits := Suits.order (literalLayout.text x) hk hfinite
      rwa [hvalue] at hsuits
    cases comparison with
    | eq =>
      cases negated
      · exact hequal (Or.inl rfl)
      · exact hequal (Or.inr rfl)
    | lt => cases negated <;> exact horder (k := .lt) (by decide)
    | le => cases negated <;> exact horder (k := .le) (by decide)
    | gt => cases negated <;> exact horder (k := .gt) (by decide)
    | ge => cases negated <;> exact horder (k := .ge) (by decide)
  | isNull =>
    cases negated
    · exact .null "null" (Or.inl rfl)
    · exact .null "null" (Or.inr rfl)

theorem negated_of_inFront (h : c.inFront = true) : c.negated = true := by
  obtain ⟨path, test, negated⟩ := c
  rcases test with s | s | ⟨_ | _ | _ | _ | _, x⟩ | _ <;>
    first | exact h | exact absurd h Bool.false_ne_true

/-- The words of a condition stand for it. -/
theorem derives_words (h : c.Writable) :
    Derives .negation c.words (.condition c) (if c.inFront then 1 else 0) := by
  obtain ⟨hne, hdots, -, htest⟩ := h
  have hterm : Derives .term [(.field, c.field), (c.operator, c.operator.sign), c.literal] _ 0 :=
    .condition c.operator.sign c.isComparison_operator (suits_literal htest)
  rw [field, piecesOf_pathText hne hdots] at hterm
  by_cases hf : c.inFront = true
  · -- the `not` in front says all of the negation, the operator none of it
    have htree : Filter.negate (.condition ⟨c.path, c.test, c.negated && !c.inFront⟩) =
        .condition c := by
      rw [Filter.negate, hf, Bool.not_true, Bool.and_false, Bool.not_false,
        ← negated_of_inFront hf]
    rw [words, if_pos hf, if_pos hf, ← htree]
    exact .not "not" (.term hterm)
  · have htree : Filter.condition ⟨c.path, c.test, c.negated && !c.inFront⟩ = .condition c := by
      rw [Bool.eq_false_iff.2 hf, Bool.not_false, Bool.and_true]
    rw [words, if_neg hf, if_neg hf, ← htree]
    exact .term hterm

end Condition

/-! ## The text of a filter -/

namespace Filter

/-- The words of a filter's text. -/
def words : Filter → List Word
  | condition c => c.words
  | junction o l r negated =>
    (if negated then [(.not, "not")] else []) ++
      (.leftParen, "(") :: (l.words ++ (o.kind, o.keyword) :: r.words ++ [(.rightParen, ")")])

/-- The brackets and `not`s that are open at once inside a filter's text. -/
def nesting : Filter → Nat
  | condition c => if c.inFront then 1 else 0
  | junction _ l r negated => max l.nesting r.nesting + 1 + if negated then 1 else 0

/-- A level of the tree has at most a bracket and a `not` to its text. -/
theorem nesting_lt (f : Filter) : f.nesting < 2 * f.depth := by
  induction f with
  | condition c =>
    rw [nesting, depth]
    split <;> omega
  | junction o l r negated ihl ihr =>
    rw [nesting, depth]
    split <;> omega

theorem toList_text_junction (o : Connective) (l r : Filter) (negated : Bool) :
    (junction o l r negated).text.toList = (if negated then "not ".toList else []) ++
      '(' :: (l.text.toList ++ ' ' :: (o.keyword.toList ++ ' ' :: r.text.toList) ++ [')']) := by
  cases negated <;> simp [text]

variable {f : Filter}

/-- **A filter's text spells its words.** -/
theorem spells_text (h : ∀ c ∈ f.conditions, c.Writable) : Spells f.text.toList f.words := by
  induction f with
  | condition c => exact Condition.spells_text (h c List.mem_cons_self)
  | junction o l r negated ihl ihr =>
    rw [conditions_junction, List.forall_mem_append] at h
    rw [toList_text_junction]
    exact (((ihl h.1).blank ((spells_keyword o).blank (ihr h.2))).bracketed).negated negated

/-- **The words of a filter stand for it.** -/
theorem derives_words (h : ∀ c ∈ f.conditions, c.Writable) :
    Derives .negation f.words f f.nesting := by
  induction f with
  | condition c => exact Condition.derives_words (h c List.mem_cons_self)
  | junction o l r negated ihl ihr =>
    rw [conditions_junction, List.forall_mem_append] at h
    have hl : Derives (.chain o) l.words l l.nesting := .operand (ihl h.1).of_negation
    have hboth : Derives .negation _ (junction o l r false) _ :=
      .term (.group "(" ")" (Derives.join o.keyword hl (ihr h.2).of_negation).of_chain)
    cases negated
    · exact hboth
    · exact .not "not" hboth

/-- The tokens of a filter's text are a derivation of the filter. -/
theorem tokensOf_text (h : ∀ c ∈ f.conditions, c.Writable) :
    ∃ ts stop, tokensOf f.text = ⟨ts, .ok stop⟩ ∧
      Derives (.chain .or) (ts.map Token.word) f f.nesting := by
  obtain ⟨ts, stop, hts, hmap⟩ := (spells_text h).tokensOf
  refine ⟨ts, stop, hts, ?_⟩
  rw [hmap]
  exact .operand (derives_words h).of_negation

/-- **A filter's text is read back as the filter, within the limit**, and
refused as too deep beyond it. -/
theorem parseFilter_text (limit : Nat) (h : ∀ c ∈ f.conditions, c.Writable) :
    (Fits limit 0 f f.nesting → parseFilter limit f.text = .ok (some f)) ∧
      (¬ Fits limit 0 f f.nesting →
        ∃ pos, parseFilter limit f.text = .error (.tooDeep limit pos)) := by
  obtain ⟨ts, stop, hts, hd⟩ := tokensOf_text h
  exact parseFilter_of_derives hts hd

end Filter

/-! ## The conditions that are read -/

/-- What the words of a text are like. -/
def WellSpelled (w : Word) : Prop :=
  (w.1 = .field → FieldName w.2.toList) ∧
    (w.1 = .string → '\'' ∉ w.2.toList ∨ '"' ∉ w.2.toList)

theorem wellSpelled_of_mem_tokensOf {s : String} {t : Token} (h : t ∈ (tokensOf s).tokens) :
    WellSpelled t.word :=
  ⟨fieldName_of_mem_tokensOf h, quote_of_mem_tokensOf h⟩

theorem Suits.writable {k : TokenKind} {w : Word} {test : Test} {negated : Bool}
    (h : Suits k w test negated) (hw : WellSpelled w) : test.Writable := by
  cases h with
  | text s hk => exact hw.2 rfl
  | number s hk hs => exact hs
  | null s hk => exact trivial
  | pattern s hk => exact hw.2 rfl
  | order s hk hs => exact hs

/-- **Well spelled words stand for filters that can be written.** -/
theorem Derives.writable {part : Part} {ws : List Word} {f : Filter} {n : Nat}
    (h : Derives part ws f n) (hws : ∀ w ∈ ws, WellSpelled w) :
    ∀ c ∈ f.conditions, c.Writable := by
  induction h with
  | operand _ ih => exact ih hws
  | join t _ _ ihl ihr =>
    rw [List.forall_mem_append, List.forall_mem_cons] at hws
    rw [Filter.conditions_junction, List.forall_mem_append]
    exact ⟨ihl hws.1, ihr hws.2.2⟩
  | not t _ ih =>
    rw [List.forall_mem_cons] at hws
    exact Filter.writable_negate (ih hws.2)
  | term _ ih => exact ih hws
  | group t t' _ ih =>
    rw [List.forall_mem_cons, List.forall_mem_append] at hws
    exact ih hws.2.1
  | @condition path k literal test negated t hk h =>
    simp only [List.forall_mem_cons] at hws
    obtain ⟨hpath, -, hliteral, -⟩ := hws
    rw [Filter.conditions, List.forall_mem_singleton]
    refine ⟨piecesOf_ne_nil path, fun segment hs => not_mem_of_mem_piecesOf hs, ?_,
      h.writable hliteral⟩
    rw [Condition.field, pathText_piecesOf]
    exact hpath.1 rfl

/-- The conditions of a filter that has been read can be written. -/
theorem writable_of_parseFilter {limit : Nat} {text : String} {f : Filter}
    (h : parseFilter limit text = .ok (some f)) : ∀ c ∈ f.conditions, c.Writable := by
  obtain ⟨ts, stop, n, hts, hd, -⟩ := derives_of_parseFilter h
  refine hd.writable fun w hw => ?_
  obtain ⟨t, ht, rfl⟩ := List.mem_map.1 hw
  refine wellSpelled_of_mem_tokensOf (s := text) ?_
  rw [hts]
  exact ht

end RecordQuery
