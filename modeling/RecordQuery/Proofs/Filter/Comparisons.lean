import RecordQuery.Proofs.Filter.Expectation
import RecordQuery.Proofs.Filter.Missing
import RecordQuery.Proofs.Query.Numbers
/-!
# The six comparisons with a number

There are six operators between a field and a number, and five comparisons: `!=` is a
negated `==`. A text with one of them is read as its condition exactly if the number is
finite (`parseFilter_compares`), and the numbers in documents are finite, too
(`isFinite_of_numberAt?`). So the answers of the six are those of one linear order,
where there is a number; and where there is none they do not depend on the operator,
except that `!=` holds of what is missing (`comparisons_agree`).
-/

namespace RecordQuery

open Json

/-! ## Operators -/

/-- The operators that stand before a number. -/
def numericOperators : List TokenKind := [.lt, .le, .eq, .ne, .ge, .gt]

theorem mem_numericOperators {k : TokenKind} :
    k ∈ numericOperators ↔ k.isOrder ∨ k = .eq ∨ k = .ne := by
  cases k <;> decide

theorem isComparison_of_mem {k : TokenKind} (hk : k ∈ numericOperators) :
    k.isComparison = true := by
  revert hk
  cases k <;> decide

/-- Whether a comparison holds of two numbers that are placed like this. -/
def Comparison.admits : Comparison → Ordering → Bool
  | eq, o => o.isEq
  | lt, o => o.isLT
  | le, o => o.isLE
  | gt, o => o.isGT
  | ge, o => o.isGE

/-- Placed by two integers they are compared as these. -/
theorem Comparison.admits_compare (c : Comparison) (m n : Int) :
    c.admits (compare m n) = match c with
      | eq => decide (m = n)
      | lt => decide (m < n)
      | le => decide (m ≤ n)
      | gt => decide (n < m)
      | ge => decide (n ≤ m) := by
  rcases lt_trichotomy m n with hlt | rfl | hgt
  · rw [compare_lt_iff_lt.2 hlt]
    cases c <;> simp [admits] <;> omega
  · rw [compare_eq_iff_eq.2 rfl]
    cases c <;> simp [admits]
  · rw [compare_gt_iff_gt.2 hgt]
    cases c <;> simp [admits] <;> omega

/-- Whether an operator makes a condition hold of two numbers that are placed like
this. -/
def TokenKind.admits (k : TokenKind) (o : Ordering) : Bool := k.comparison.admits o != (k = .ne)

/-- What the answers of the six operators have to do with each other if they are those
of a linear order. -/
structure Linear (holds : TokenKind → Bool) : Prop where
  exactlyOne : [holds .lt, holds .eq, holds .gt].count true = 1
  le : holds .le = (holds .lt || holds .eq)
  ge : holds .ge = (holds .gt || holds .eq)
  ne : holds .ne = !holds .eq

theorem linear_admits (o : Ordering) : Linear (TokenKind.admits · o) := by
  cases o <;> exact ⟨rfl, rfl, rfl, rfl⟩

/-! ## Finite numbers -/

theorem Binary64.isNaN_eq_false {x : Binary64} (hx : x.isFinite = true) : x.isNaN = false := by
  simp only [isFinite, isNaN, decide_eq_true_eq, decide_eq_false_iff_not] at hx ⊢
  omega

/-- Finite numbers are compared by their positions on the line. -/
theorem Comparison.holds_eq_admits {x y : Binary64} (hx : x.isFinite = true)
    (hy : y.isFinite = true) (c : Comparison) :
    c.holds x y = c.admits (compare x.position y.position) := by
  rw [admits_compare]
  cases c <;>
    simp only [holds, Binary64.eq, Binary64.lt, Binary64.le, Binary64.isNaN_eq_false hx,
      Binary64.isNaN_eq_false hy, Bool.not_false, Bool.true_and]
  rfl

/-- **The numbers of documents are finite**: no integer of `64` bits is rounded to an
infinity. -/
theorem Json.Number.isFinite_toBinary64 (u : Number) : u.toBinary64.isFinite = true := by
  cases u with
  | float x finite => exact finite
  | integer n fits =>
    obtain ⟨hlow, hhigh⟩ := fits
    have hbound : Width.double.roundCode n.natAbs 1 ≤ Width.double.roundCode (2 ^ 64) 1 :=
      Width.roundCode_mono (by decide) one_pos one_pos (by omega)
    have hpower : Width.double.roundCode (2 ^ 64) 1 < Width.double.infinity := by decide
    have hcode : (Binary64.ofInt n).code ≤ Width.double.roundCode n.natAbs 1 := Nat.min_le_left _ _
    exact decide_eq_true (hcode.trans_lt (hbound.trans_lt hpower))

/-! ## Numbers at paths -/

/-- The number at a path, inside its wrappers. -/
def Record.numberAt? (r : Record) (path : List String) : Option Binary64 :=
  match r.resolve path with
  | .ok v => v.dereference.number?
  | .error _ => none

variable {r : Record} {path : List String} {x y : Binary64} {k : TokenKind} {doc : Value}

theorem Record.numberAt?_eq_some :
    r.numberAt? path = some y ↔ ∃ v, r.resolve path = .ok v ∧ v.dereference.number? = some y := by
  rw [numberAt?]
  cases r.resolve path <;> simp

/-- The number at a path of a document is a member that is a number. -/
theorem Record.numberAt?_document :
    (document doc).numberAt? path = some y ↔
      ∃ u : Number, (document doc).resolve path = .ok (Value.number u).toField ∧
        u.toBinary64 = y := by
  rw [numberAt?_eq_some]
  constructor
  · rintro ⟨v, hv, hy⟩
    obtain ⟨w, rfl⟩ := exists_toField_of_resolve hv
    cases w with
    | number u => exact ⟨u, hv, Option.some.inj ((number?_toField u).symm.trans hy)⟩
    | _ => cases hy
  · rintro ⟨u, hv, rfl⟩
    exact ⟨_, hv, number?_toField u⟩

theorem Record.isFinite_of_numberAt? (h : (document doc).numberAt? path = some y) :
    y.isFinite = true := by
  obtain ⟨u, -, rfl⟩ := numberAt?_document.1 h
  exact u.isFinite_toBinary64

/-! ## Conditions -/

/-- The condition that an operator makes of a path and a number. -/
def comparing (path : List String) (k : TokenKind) (x : Binary64) : Filter :=
  .condition ⟨path, .compares k.comparison x, k = .ne⟩

section

variable [PatternEngine]

/-- Where a path cannot be walked all operators fail in the same way. -/
theorem evaluate_comparing_of_error {cause : Mismatch} (h : r.resolve path = .error cause) :
    evaluate (some (comparing path k x)) r = .error (.mismatch path cause) := by
  rw [comparing, evaluate_condition rfl, Condition.verdict]
  simp only [h]

/-- Only `!=` holds of what is missing. -/
theorem evaluate_comparing_of_missing {v : FieldValue} (hv : r.resolve path = .ok v)
    (hnull : v.dereference = .null) : evaluate (some (comparing path k x)) r = .ok (k = .ne) :=
  (takenAsMissing_iff hv).2 hnull ⟨path, .compares k.comparison x, k = .ne⟩ rfl nofun rfl

/-- The operators hold of a number by its place beside the other one. -/
theorem evaluate_comparing_of_number (hx : x.isFinite = true)
    (hy : (Record.document doc).numberAt? path = some y) :
    evaluate (some (comparing path k x)) (.document doc) =
      .ok (k.admits (compare y.position x.position)) := by
  obtain ⟨v, hv, hnumber⟩ := Record.numberAt?_eq_some.1 hy
  rw [comparing, evaluate_compares hv hnumber,
    Comparison.holds_eq_admits (Record.isFinite_of_numberAt? hy) hx, TokenKind.admits]

/-- No operator can be asked of what is neither missing nor a number. -/
theorem evaluate_comparing_of_other {v : FieldValue} (hv : r.resolve path = .ok v)
    (hnull : v.dereference ≠ .null) (hnumber : v.dereference.number? = none) :
    evaluate (some (comparing path k x)) r =
      .error (.mismatch path (.wrongKind .number v.dereference.kind)) := by
  have hpresent : v.dereference.isNull = false := by
    cases hd : v.dereference with
    | null => exact absurd hd hnull
    | _ => rfl
  rw [comparing, evaluate_condition rfl, Condition.verdict]
  simp only [hv, Test.holds, hnumber, hpresent]
  rfl

/-- **Whether there is an answer does not depend on the operator**, nor on the number
that it compares with. -/
theorem evaluate_comparing_cases (r : Record) (path : List String) :
    (∃ y, r.numberAt? path = some y) ∨
      (∀ k x, evaluate (some (comparing path k x)) r = .ok (k = .ne)) ∨
      ∃ e, ∀ k x, evaluate (some (comparing path k x)) r = .error e := by
  cases hv : r.resolve path with
  | error cause => exact .inr (.inr ⟨_, fun k x => evaluate_comparing_of_error hv⟩)
  | ok v =>
    cases hnumber : v.dereference.number? with
    | some y => exact .inl ⟨y, Record.numberAt?_eq_some.2 ⟨v, hv, hnumber⟩⟩
    | none =>
      by_cases hnull : v.dereference = .null
      · exact .inr (.inl fun k x => evaluate_comparing_of_missing hv hnull)
      · exact .inr (.inr ⟨_, fun k x => evaluate_comparing_of_other hv hnull hnumber⟩)

end

/-! ## Texts -/

/-- A text of which the words are a field, an operator and a number. -/
def Compares (text field : String) (k : TokenKind) (literal : String) : Prop :=
  ∃ ts stop sign, tokensOf text = ⟨ts, .ok stop⟩ ∧
    ts.map Token.word = [(.field, field), (k, sign), (.number, literal)]

variable {text field literal : String} {limit : Nat} {f : Filter}

/-- A name, an operator and a numeral compare the name with a number. -/
theorem compares_of_numeral {name digits : List Char} {d : Decimal} (negative : Bool)
    (hname : FieldName name) (hk : k.isComparison = true) (hdigits : Numeral digits d)
    (htext : text.toList = name ++ ' ' :: (k.sign.toList ++
      ' ' :: ((if negative then ['-'] else []) ++ digits))) :
    Compares text (String.ofList name) k
      (String.ofList ((if negative then ['-'] else []) ++ digits)) := by
  have hspells := (Spells.fieldName hname).blank
    ((Spells.sign hk).blank (Spells.numeral negative hdigits))
  rw [← htext] at hspells
  obtain ⟨ts, stop, hts, hwords⟩ := hspells.tokensOf
  exact ⟨ts, stop, k.sign, hts, hwords⟩

/-- What the six operators make of a number, if it is finite. -/
theorem suits_number_iff (hk : k ∈ numericOperators) {test : Test} {negated : Bool} :
    Suits k (.number, literal) test negated ↔
      (literalValue literal.toList).isFinite = true ∧
        test = .compares k.comparison (literalValue literal.toList) ∧
        negated = decide (k = .ne) := by
  have hequality (h : k = .eq ∨ k = .ne) : k.comparison = .eq := by rcases h with rfl | rfl <;> rfl
  have horder (h : k.isOrder) : decide (k = .ne) = false := by
    rcases h with rfl | rfl | rfl | rfl <;> rfl
  constructor
  · rintro (_ | ⟨_, heq, hfinite⟩ | _ | _ | ⟨_, ho, hfinite⟩)
    · exact ⟨hfinite, by rw [hequality heq], rfl⟩
    · exact ⟨hfinite, rfl, (horder ho).symm⟩
  · rintro ⟨hfinite, rfl, rfl⟩
    rcases mem_numericOperators.1 hk with ho | heq
    · rw [horder ho]
      exact .order _ ho hfinite
    · rw [hequality heq]
      exact .number _ heq hfinite

/-- A sentence of three words has a literal that suits its operator. -/
theorem Denotes.exists_suits {t : String} {w : Word}
    (h : Denotes [(.field, field), (k, t), w] f) : ∃ test negated, Suits k w test negated := by
  have hleads := denotes_iff_leads.1 ⟨f, h⟩
  rcases hleads with _ | ⟨⟨⟩, _ | ⟨⟨⟩, _ | ⟨hliteral, -⟩⟩⟩
  cases hliteral with
  | literal hsuits => exact ⟨_, _, hsuits⟩

/-- **A text that compares with a number is read exactly if the number is finite**, and
then under every limit. -/
theorem parseFilter_compares (hk : k ∈ numericOperators) (htext : Compares text field k literal) :
    parseFilter limit text = .ok (some f) ↔
      (literalValue literal.toList).isFinite = true ∧
        f = comparing (piecesOf '.' field) k (literalValue literal.toList) := by
  obtain ⟨ts, stop, sign, hts, hwords⟩ := htext
  have hderives (hfinite : (literalValue literal.toList).isFinite = true) :
      Derives (.chain .or) (ts.map Token.word)
        (comparing (piecesOf '.' field) k (literalValue literal.toList)) 0 := by
    have hsuits := (suits_number_iff hk).2 ⟨hfinite, rfl, rfl⟩
    rw [hwords]
    exact .operand (Derives.of_negation (.term (.condition sign (isComparison_of_mem hk) hsuits)))
  constructor
  · intro h
    obtain ⟨ts', stop', n, hts', hd, -⟩ := derives_of_parseFilter h
    rw [hts] at hts'
    cases hts'
    have hdenotes : Denotes (ts.map Token.word) f := ⟨n, hd⟩
    obtain ⟨test, negated, hsuits⟩ := Denotes.exists_suits (hwords ▸ hdenotes)
    obtain ⟨hfinite, -, -⟩ := (suits_number_iff hk).1 hsuits
    exact ⟨hfinite, hdenotes.unique ⟨0, hderives hfinite⟩⟩
  · rintro ⟨hfinite, rfl⟩
    refine (parseFilter_of_derives hts (hderives hfinite)).1 ⟨Nat.zero_le _, ?_⟩
    exact le_max_left _ _

/-! ## The answers -/

/-- **The six comparisons with a number agree.** If one of the texts is read, all of
them are. Then they fail for a document with the same error, or have all an answer:
where the path leads to null only `!=` holds, and where it leads to a number exactly
one of `<`, `==` and `>` does, which the other three are made of. -/
theorem comparisons_agree [PatternEngine] (doc : Value) {text : TokenKind → String}
    (htext : ∀ k ∈ numericOperators, Compares (text k) field k literal)
    (hread : ∃ k ∈ numericOperators, ∃ limit f, parseFilter limit (text k) = .ok (some f)) :
    ∃ filter : TokenKind → Filter,
      (∀ k ∈ numericOperators, ∀ limit, parseFilter limit (text k) = .ok (some (filter k))) ∧
      ((∃ e, ∀ k ∈ numericOperators, evaluate (some (filter k)) (.document doc) = .error e) ∨
        ∃ holds : TokenKind → Bool,
          ∀ k ∈ numericOperators, evaluate (some (filter k)) (.document doc) = .ok (holds k)) ∧
      ((Record.document doc).resolve (piecesOf '.' field) = .ok Value.null.toField →
        ∀ k ∈ numericOperators, evaluate (some (filter k)) (.document doc) = .ok (k = .ne)) ∧
      ∀ u : Number,
        (Record.document doc).resolve (piecesOf '.' field) = .ok (Value.number u).toField →
        ∃ holds : TokenKind → Bool, Linear holds ∧
          ∀ k ∈ numericOperators, evaluate (some (filter k)) (.document doc) = .ok (holds k) := by
  obtain ⟨k, hk, limit, f, hf⟩ := hread
  obtain ⟨hfinite, -⟩ := (parseFilter_compares hk (htext k hk)).1 hf
  refine ⟨fun k => comparing (piecesOf '.' field) k (literalValue literal.toList), ?_, ?_, ?_, ?_⟩
  · intro k hk limit
    exact (parseFilter_compares hk (htext k hk)).2 ⟨hfinite, rfl⟩
  · rcases evaluate_comparing_cases (.document doc) (piecesOf '.' field) with
      ⟨y, hy⟩ | hmissing | ⟨e, he⟩
    · exact .inr ⟨_, fun k _ => evaluate_comparing_of_number hfinite hy⟩
    · exact .inr ⟨_, fun k _ => hmissing k _⟩
    · exact .inl ⟨e, fun k _ => he k _⟩
  · intro hnull k _
    exact evaluate_comparing_of_missing hnull rfl
  · intro u hu
    have hy := Record.numberAt?_document.2 ⟨u, hu, rfl⟩
    exact ⟨_, linear_admits _, fun k _ => evaluate_comparing_of_number hfinite hy⟩

/-- A text that compares with zero. -/
def againstZero (k : TokenKind) : String := "n " ++ k.sign ++ " 0"

theorem againstZero_compares (hk : k.isComparison = true) :
    Compares (againstZero k) "n" k "0" := by
  have hzero : Numeral ['0'] _ := .whole (List.cons_ne_nil _ _) (by simp [Digits])
  have hname : FieldName ['n'] := by decide
  exact compares_of_numeral false hname hk hzero (by simp [againstZero])

/-- A document with a negative zero. -/
def minusZero : Value := .object [("n", .number (.float ⟨true, 0, Binary64.zero.code_lt⟩ rfl))]

section

open Reference

/-- Exactly one of the three holds of a negative zero beside zero, too. -/
theorem minusZero_compared :
    ((∀ k ∈ numericOperators, Compares (againstZero k) "n" k "0") ∧
      ∃ k ∈ numericOperators, ∃ limit f, parseFilter limit (againstZero k) = .ok (some f)) ∧
    ∃ filter : TokenKind → Filter,
      (∀ k ∈ numericOperators, parseFilter 0 (againstZero k) = .ok (some (filter k))) ∧
      ∃ holds : TokenKind → Bool, Linear holds ∧
        ∀ k ∈ numericOperators,
          evaluate (some (filter k)) (.document minusZero) = .ok (holds k) := by
  have htext : ∀ k ∈ numericOperators, Compares (againstZero k) "n" k "0" :=
    fun k hk => againstZero_compares (isComparison_of_mem hk)
  have hread : ∃ k ∈ numericOperators, ∃ limit f,
      parseFilter limit (againstZero k) = .ok (some f) := by
    have heq : TokenKind.eq ∈ numericOperators := by decide
    exact ⟨.eq, heq, 0, _, (parseFilter_compares heq (htext .eq heq)).2 ⟨by decide, rfl⟩⟩
  obtain ⟨filter, hparse, -, -, hnumber⟩ := comparisons_agree minusZero htext hread
  exact ⟨⟨htext, hread⟩, filter, fun k hk => hparse k hk 0, hnumber _ rfl⟩

end

end RecordQuery
