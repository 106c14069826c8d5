import RecordQuery.Filter.Lexeme
import RecordQuery.Filter.Text
/-!
# Reading filters

A filter text is read by recursive descent over its tokens, one token ahead.
`or` binds less tightly than `and`, both chains lean to the left, and `not`
and brackets bind most tightly. A limit bounds the depth of the tree, and also
the number of brackets and `not`s that are open at the same time.

Each function returns what it has read together with the place behind it, and
the proof that it consumed a token. This is what the recursion ends by.
-/

namespace RecordQuery

/-- Why a text is not a filter. -/
inductive ParseError where
  | stray (symbol : Stray)
  | unexpected (token : String) (position : Nat) (expected : List TokenKind)
  | tooDeep (limit position : Nat)
deriving DecidableEq, Repr

namespace ParseError

/-- The wording of an error. -/
def message : ParseError → String
  | stray s =>
    "unexpected symbol '" ++ s.symbol.toString ++ "' at position " ++ integerText s.position
  | unexpected token position expected =>
    "unexpected " ++ token ++ " at position " ++ integerText position ++ ", expected " ++
      TokenKind.describeAll expected
  | tooDeep limit position =>
    "expression nested deeper than " ++ integerText limit ++ " levels at position " ++
      integerText position

end ParseError

/-! ## The place of the parser -/

/-- A place between the tokens of a text: the tokens ahead, what comes after
them, and the number of brackets and `not`s that are open. -/
structure Cursor where
  ahead : List Token
  stop : Except Stray Nat
  opened : Nat
deriving Repr

namespace Cursor

/-- The next token, which may be the end of the text. -/
def current (s : Cursor) : Token :=
  match s.ahead with
  | t :: _ => t
  | [] => match s.stop with
    | .ok position => ⟨.finish, "", position⟩
    | .error symbol => ⟨.finish, "", symbol.position⟩

/-- The kind of the next token. -/
def kind (s : Cursor) : TokenKind := s.current.kind

/-- The number of tokens ahead. -/
def left (s : Cursor) : Nat := s.ahead.length

/-- The place before some of the tokens. A stray symbol is noticed as soon as
no token stands before it. -/
def moveTo (s : Cursor) (ahead : List Token) : Except ParseError Cursor :=
  match ahead, s.stop with
  | [], .error symbol => .error (.stray symbol)
  | _, _ => .ok { s with ahead }

/-- The beginning of a text's tokens. -/
def ofTokens (ts : Tokens) : Except ParseError Cursor :=
  moveTo ⟨[], ts.stop, 0⟩ ts.tokens

/-- The place behind the next token. -/
def advance (s : Cursor) : Except ParseError Cursor := s.moveTo s.ahead.tail

/-- The error at the next token. -/
def unexpected (s : Cursor) (expected : List TokenKind) : ParseError :=
  .unexpected s.current.describe s.current.position expected

/-- The place with one more bracket or `not` open, if the limit allows it. -/
def descend (s : Cursor) (limit : Nat) : Except ParseError Cursor :=
  if limit < s.opened + 1 then .error (.tooDeep limit s.current.position)
  else .ok { s with opened := s.opened + 1 }

/-- The place with one bracket or `not` closed. -/
def ascend (s : Cursor) : Cursor := { s with opened := s.opened - 1 }

/-- Moving somewhere leads there. -/
theorem ahead_of_moveTo {s s' : Cursor} {ts : List Token} (h : s.moveTo ts = .ok s') :
    s'.ahead = ts := by
  simp only [moveTo] at h
  split at h
  · simp only [reduceCtorEq] at h
  · simp only [Except.ok.injEq] at h
    rw [← h]

/-- The tokens behind the next one are one fewer. -/
theorem left_of_advance {s s' : Cursor} (h : s.advance = .ok s') : s'.left = s.left - 1 := by
  rw [left, ahead_of_moveTo h, List.length_tail, left]

/-- A place before a token of some other kind than the end has tokens
ahead. -/
theorem left_pos {s : Cursor} {k : TokenKind} (h : s.kind = k) (hk : k ≠ .finish) :
    0 < s.left := by
  simp only [kind, current] at h
  split at h
  · next t ts heq => simp only [left, heq, List.length_cons, Nat.zero_lt_succ]
  · split at h <;> exact absurd h.symm hk

@[simp] theorem left_ascend (s : Cursor) : s.ascend.left = s.left := rfl

/-- Opening a bracket moves nothing. -/
theorem ahead_of_descend {s s' : Cursor} {limit : Nat} (h : s.descend limit = .ok s') :
    s'.ahead = s.ahead ∧ s'.stop = s.stop ∧ s'.opened = s.opened + 1 := by
  simp only [descend] at h
  split at h
  · simp only [reduceCtorEq] at h
  · simp only [Except.ok.injEq] at h
    rw [← h]
    exact ⟨rfl, rfl, rfl⟩

/-- The place behind the next token, which is there. -/
def skip (s : Cursor) (h : 0 < s.left) : Except ParseError { s' : Cursor // s'.left < s.left } :=
  match hs : s.advance with
  | .error e => .error e
  | .ok s' => .ok ⟨s', by rw [left_of_advance hs]; omega⟩

/-- The place behind the next token, after opening a bracket or `not`. -/
def enter (s : Cursor) (limit : Nat) (h : 0 < s.left) :
    Except ParseError { s' : Cursor // s'.left < s.left } :=
  match hd : s.descend limit with
  | .error e => .error e
  | .ok opened =>
    have heq : opened.left = s.left := by rw [left, (ahead_of_descend hd).1, left]
    match opened.skip (by omega) with
    | .error e => .error e
    | .ok s' => .ok ⟨s'.1, by have := s'.2; omega⟩

end Cursor

/-! ## Conditions -/

/-- The number that a literal stands for. -/
def literalValue (text : List Char) : Binary64 :=
  let (negative, digits) := match text with
    | '-' :: rest => (true, rest)
    | _ => (false, text)
  (Decimal.ofParts (digits.takeWhile Char.isDigit)
    ((digits.dropWhile Char.isDigit).drop 1) 0).toBinary64 negative

/-- The comparison that an operator asks for. -/
def TokenKind.comparison : TokenKind → Comparison
  | lt => .lt
  | le => .le
  | gt => .gt
  | ge => .ge
  | _ => .eq

/-- The test that a literal makes with an operator, and whether the operator
negates it. Equality takes any literal, patterns are texts, and the order
takes numbers. -/
def Cursor.test (s : Cursor) (operator : TokenKind) : Except ParseError (Test × Bool) :=
  let literal := s.current
  let number (negated : Bool) : Except ParseError (Test × Bool) :=
    let value := literalValue literal.text.toList
    if value.isFinite then .ok (.compares operator.comparison value, negated)
    else .error (s.unexpected [.number])
  if operator = .eq ∨ operator = .ne then
    let negated := operator = .ne
    match literal.kind with
    | .string => .ok (.equals literal.text, negated)
    | .number => number negated
    | .null => .ok (.isNull, negated)
    | _ => .error (s.unexpected [.string, .number, .null])
  else if operator = .like ∨ operator = .unlike then
    match literal.kind with
    | .string => .ok (.like literal.text, operator = .unlike)
    | _ => .error (s.unexpected [.string])
  else
    match literal.kind with
    | .number => number false
    | _ => .error (s.unexpected [.number])

/-- A tree that has been read, its depth, and the place behind it. -/
structure Parsed where
  tree : Filter
  depth : Nat
  cursor : Cursor

/-- A field, an operator, and a literal that suits it. -/
def Cursor.condition (s : Cursor) : Except ParseError Parsed := do
  let path := piecesOf '.' s.current.text
  let s ← s.advance
  let operator := s.kind
  if !operator.isComparison then throw (s.unexpected TokenKind.comparisons)
  let s ← s.advance
  let (test, negated) ← s.test operator
  let s ← s.advance
  return ⟨.condition ⟨path, test, negated⟩, 1, s⟩

/-- A condition consumes tokens. -/
theorem Cursor.left_of_condition {s : Cursor} {p : Parsed} (h : s.condition = .ok p)
    (hs : 0 < s.left) : p.cursor.left < s.left := by
  simp only [condition, bind, Except.bind] at h
  split at h
  · simp only [reduceCtorEq] at h
  next s₁ h₁ =>
  split at h
  · simp only [throw, throwThe, MonadExceptOf.throw, reduceCtorEq] at h
  simp only [pure, Except.pure] at h
  split at h
  · simp only [reduceCtorEq] at h
  next s₂ h₂ =>
  split at h
  · simp only [reduceCtorEq] at h
  split at h
  · simp only [reduceCtorEq] at h
  next s₃ h₃ =>
  simp only [Except.ok.injEq] at h
  rw [← h]
  have := left_of_advance h₁
  have := left_of_advance h₂
  have := left_of_advance h₃
  show s₃.left < s.left
  omega

/-! ## Expressions -/

/-- The kind of a connective's token. -/
def Connective.kind : Connective → TokenKind
  | and => .and
  | or => .or

/-- How loosely a connective binds. -/
@[simp] def Connective.rank : Connective → Nat
  | and => 2
  | or => 4

theorem Connective.kind_ne_finish (c : Connective) : c.kind ≠ .finish := by
  cases c <;> decide

/-- Two trees under a connective, unless they would be too deep. -/
def Parsed.join (c : Connective) (limit : Nat) (left right : Parsed) :
    Except ParseError { p : Parsed // p.cursor = right.cursor } :=
  let depth := max left.depth right.depth + 1
  if limit < depth then .error (.tooDeep limit right.cursor.current.position)
  else .ok ⟨⟨.junction c left.tree right.tree false, depth, right.cursor⟩, rfl⟩

/-- What has been read from a place, behind which fewer tokens are left. -/
abbrev ParsedFrom (s : Cursor) := { p : Parsed // p.cursor.left < s.left }

mutual

/-- A chain of a connective's operands. -/
def Cursor.chain (limit : Nat) (c : Connective) (s : Cursor) :
    Except ParseError (ParsedFrom s) := do
  let ⟨first, hf⟩ ← s.operand limit c
  let ⟨whole, hw⟩ ← first.extend limit c
  return ⟨whole, by omega⟩
termination_by (s.left, c.rank + 1)

/-- What a connective joins: chains of `and` under `or`, and single terms
under `and`. -/
def Cursor.operand (limit : Nat) (c : Connective) (s : Cursor) :
    Except ParseError (ParsedFrom s) :=
  match c with
  | .or => s.chain limit .and
  | .and => s.negation limit
termination_by (s.left, c.rank)

/-- A tree together with the operands that follow it. -/
def Parsed.extend (limit : Nat) (c : Connective) (p : Parsed) :
    Except ParseError { q : Parsed // q.cursor.left ≤ p.cursor.left } := do
  if hk : p.cursor.kind = c.kind then
    let ⟨s, hs⟩ ← p.cursor.skip (Cursor.left_pos hk c.kind_ne_finish)
    let ⟨right, hr⟩ ← s.operand limit c
    let ⟨both, hb⟩ ← p.join c limit right
    have : both.cursor.left < p.cursor.left := by rw [hb]; omega
    let ⟨whole, hw⟩ ← both.extend limit c
    return ⟨whole, by omega⟩
  else return ⟨p, Nat.le_refl _⟩
termination_by (p.cursor.left, 0)

/-- A term with any number of `not`s before it. -/
def Cursor.negation (limit : Nat) (s : Cursor) : Except ParseError (ParsedFrom s) := do
  if hk : s.kind = .not then
    let ⟨s', hs⟩ ← s.enter limit (Cursor.left_pos hk (by decide))
    let ⟨p, hp⟩ ← s'.negation limit
    return ⟨⟨p.tree.negate, p.depth, p.cursor.ascend⟩, by simp only [Cursor.left_ascend]; omega⟩
  else s.term limit
termination_by (s.left, 1)

/-- A filter in brackets, or a condition. -/
def Cursor.term (limit : Nat) (s : Cursor) : Except ParseError (ParsedFrom s) := do
  if hk : s.kind = .leftParen then
    let ⟨s', hs⟩ ← s.enter limit (Cursor.left_pos hk (by decide))
    let ⟨p, hp⟩ ← s'.chain limit .or
    if hr : p.cursor.kind = .rightParen then
      let ⟨after, ha⟩ ← p.cursor.skip (Cursor.left_pos hr (by decide))
      return ⟨⟨p.tree, p.depth, after.ascend⟩, by simp only [Cursor.left_ascend]; omega⟩
    else throw (p.cursor.unexpected [.rightParen])
  else if hf : s.kind = .field then
    match hc : s.condition with
    | .error e => throw e
    | .ok p => return ⟨p, Cursor.left_of_condition hc (Cursor.left_pos hf (by decide))⟩
  else throw (s.unexpected [.field, .not, .leftParen])
termination_by (s.left, 0)

end

/-- The depth that filters may have by default. -/
def defaultDepth : Nat := 64

/-- The filter that a text stands for, if it is not blank, within a limit on
its depth. -/
def parseFilter (limit : Nat) (text : String) : Except ParseError (Option Filter) := do
  if allBlank text then return none
  let start ← Cursor.ofTokens (tokensOf text)
  let ⟨p, _⟩ ← start.chain limit .or
  if p.cursor.kind = .finish then return some p.tree
  else throw (p.cursor.unexpected [.and, .or, .finish])

end RecordQuery
