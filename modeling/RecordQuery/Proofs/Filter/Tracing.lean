import RecordQuery.Proofs.Filter.Parsing
/-!
# The parser, with a record of its calls

Each function of the parser again, noting down that it is called, from where, and inside of
how many other calls. The calls of a reading are kept also where it fails. What is read does
not change (`Cursor.result_traced`, `result_tracedFilter`), so the calls are those of the
parser itself.

The loop of a chain is no call of its own, nor is the choice of what a connective joins.
-/

namespace RecordQuery

/-- A call of a function of the parser: what it reads, from where, and how many calls are
unfinished at that time, itself among them. -/
structure Call where
  part : Part
  place : Cursor
  height : Nat

/-- The result of a step, and the calls made by it, the first one first. -/
structure Traced (α : Type) where
  calls : List Call
  result : Except ParseError α

namespace Traced

variable {α β : Type}

instance : Monad Traced where
  pure a := ⟨[], .ok a⟩
  bind t k := match t.result with
    | .error e => ⟨t.calls, .error e⟩
    | .ok a => ⟨t.calls ++ (k a).calls, (k a).result⟩

/-- The step that notes down a call. -/
def call (part : Part) (s : Cursor) (height : Nat) : Traced Unit := ⟨[⟨part, s, height⟩], .ok ()⟩

/-- A step that makes no calls. -/
def ofResult (r : Except ParseError α) : Traced α := ⟨[], r⟩

/-- A step without the proof that comes with its result. -/
def plain {p : α → Prop} (t : Traced { a // p a }) : Traced α := ⟨t.calls, t.result.map Subtype.val⟩

end Traced

/-- A condition, and that it consumes tokens. -/
def Cursor.conditionFrom (s : Cursor) (h : 0 < s.left) : Except ParseError (ParsedFrom s) :=
  match hc : s.condition with
  | .error e => throw e
  | .ok p => return ⟨p, Cursor.left_of_condition hc h⟩

mutual

/-- A chain of a connective's operands. -/
def Cursor.tracedChain (limit : Nat) (c : Connective) (height : Nat) (s : Cursor) :
    Traced (ParsedFrom s) := do
  Traced.call (.chain c) s height
  let ⟨first, hf⟩ ← s.tracedOperand limit c (height + 1)
  let ⟨whole, hw⟩ ← first.tracedExtend limit c (height + 1)
  return ⟨whole, Nat.lt_of_le_of_lt hw hf⟩
termination_by (s.left, c.rank + 1)

/-- What a connective joins. -/
def Cursor.tracedOperand (limit : Nat) (c : Connective) (height : Nat) (s : Cursor) :
    Traced (ParsedFrom s) :=
  match c with
  | .or => s.tracedChain limit .and height
  | .and => s.tracedNegation limit height
termination_by (s.left, c.rank)

/-- A tree together with the operands that follow it. -/
def Parsed.tracedExtend (limit : Nat) (c : Connective) (height : Nat) (p : Parsed) :
    Traced { q : Parsed // q.cursor.left ≤ p.cursor.left } := do
  if hk : p.cursor.kind = c.kind then
    let ⟨s, hs⟩ ← Traced.ofResult (p.cursor.skip (Cursor.left_pos hk c.kind_ne_finish))
    let ⟨right, hr⟩ ← s.tracedOperand limit c height
    let ⟨both, hb⟩ ← Traced.ofResult (p.join c limit right)
    have hboth : both.cursor.left < p.cursor.left := hb ▸ Nat.lt_trans hr hs
    let ⟨whole, hw⟩ ← both.tracedExtend limit c height
    return ⟨whole, Nat.le_trans hw (Nat.le_of_lt hboth)⟩
  else return ⟨p, Nat.le_refl _⟩
termination_by (p.cursor.left, 0)

/-- A term with any number of `not`s before it. -/
def Cursor.tracedNegation (limit height : Nat) (s : Cursor) : Traced (ParsedFrom s) := do
  Traced.call .negation s height
  if hk : s.kind = .not then
    let ⟨s', hs⟩ ← Traced.ofResult (s.enter limit (Cursor.left_pos hk (by decide)))
    let ⟨p, hp⟩ ← s'.tracedNegation limit (height + 1)
    return ⟨⟨p.tree.negate, p.depth, p.cursor.ascend⟩, Nat.lt_trans hp hs⟩
  else s.tracedTerm limit (height + 1)
termination_by (s.left, 1)

/-- A filter in brackets, or a condition. -/
def Cursor.tracedTerm (limit height : Nat) (s : Cursor) : Traced (ParsedFrom s) := do
  Traced.call .term s height
  if hk : s.kind = .leftParen then
    let ⟨s', hs⟩ ← Traced.ofResult (s.enter limit (Cursor.left_pos hk (by decide)))
    let ⟨p, hp⟩ ← s'.tracedChain limit .or (height + 1)
    if hr : p.cursor.kind = .rightParen then
      let ⟨after, ha⟩ ← Traced.ofResult (p.cursor.skip (Cursor.left_pos hr (by decide)))
      return ⟨⟨p.tree, p.depth, after.ascend⟩, Nat.lt_trans ha (Nat.lt_trans hp hs)⟩
    else Traced.ofResult (.error (p.cursor.unexpected [.rightParen]))
  else if hf : s.kind = .field then
    Traced.ofResult (s.conditionFrom (Cursor.left_pos hf (by decide)))
  else Traced.ofResult (.error (s.unexpected [.field, .not, .leftParen]))
termination_by (s.left, 0)

end

/-- What a part is read as, inside of some number of calls, itself among them. -/
def Cursor.traced (limit : Nat) (part : Part) (height : Nat) (s : Cursor) : Traced Parsed :=
  match part with
  | .chain c => (s.tracedChain limit c height).plain
  | .negation => (s.tracedNegation limit height).plain
  | .term => (s.tracedTerm limit height).plain

/-- The filter that a text stands for, if it is not blank. -/
def tracedFilter (limit : Nat) (text : String) : Traced (Option Filter) := do
  if allBlank text then return none
  let start ← Traced.ofResult (Cursor.ofTokens (tokensOf text))
  let p ← start.traced limit (.chain .or) 1
  if p.cursor.kind = .finish then return some p.tree
  else Traced.ofResult (.error (p.cursor.unexpected [.and, .or, .finish]))

/-! ## What is read -/

namespace Traced

variable {α β : Type}

/-- Steps after each other have the results that they have without their calls. -/
theorem result_bind {t : Traced α} {r : Except ParseError α} {k : α → Traced β}
    {k' : α → Except ParseError β} (ht : t.result = r) (hk : ∀ a, (k a).result = k' a) :
    (t >>= k).result = r >>= k' := by
  subst ht
  obtain ⟨calls, r⟩ := t
  cases r with
  | error e => rfl
  | ok a => exact hk a

theorem result_call {part : Part} {s : Cursor} {height : Nat} {t : Traced α} :
    (do Traced.call part s height; t).result = t.result := rfl

end Traced

/-- **The functions return what they return without noting down their calls.** -/
theorem Cursor.results_traced (limit : Nat) :
    (∀ (c : Connective) (s : Cursor) (height : Nat),
      (s.tracedChain limit c height).result = s.chain limit c) ∧
    (∀ (c : Connective) (p : Parsed) (height : Nat),
      (p.tracedExtend limit c height).result = p.extend limit c) ∧
    (∀ (c : Connective) (s : Cursor) (height : Nat),
      (s.tracedOperand limit c height).result = s.operand limit c) ∧
    (∀ (s : Cursor) (height : Nat),
      (s.tracedNegation limit height).result = s.negation limit) ∧
    (∀ (s : Cursor) (height : Nat), (s.tracedTerm limit height).result = s.term limit) := by
  refine chain.mutual_induct _ _ _ _ _ ?chain ?more ?last ?or ?and ?not ?negation ?group ?bad
    ?condition ?other
  case chain =>
    intro c s ihop ihext height
    rw [tracedChain, chain, Traced.result_call]
    refine Traced.result_bind (ihop _) ?_
    rintro ⟨first, hf⟩
    exact Traced.result_bind (ihext first hf _) fun _ => rfl
  case more =>
    intro c p hk ihop ihext height
    rw [Parsed.tracedExtend, Parsed.extend, dif_pos hk, dif_pos hk]
    refine Traced.result_bind rfl ?_
    rintro ⟨s, hs⟩
    refine Traced.result_bind (ihop s hs _) ?_
    rintro ⟨right, hr⟩
    refine Traced.result_bind rfl ?_
    rintro ⟨both, hb⟩
    exact Traced.result_bind (ihext s hs right hr both hb _) fun _ => rfl
  case last =>
    intro c p hk height
    rw [Parsed.tracedExtend, Parsed.extend, dif_neg hk, dif_neg hk]
    rfl
  case or =>
    intro s ih height
    rw [tracedOperand, operand, ih]
  case and =>
    intro s ih height
    rw [tracedOperand, operand, ih]
  case not =>
    intro s hk ih height
    rw [tracedNegation, negation, Traced.result_call, dif_pos hk, dif_pos hk]
    refine Traced.result_bind rfl ?_
    rintro ⟨s', hs⟩
    exact Traced.result_bind (ih s' hs _) fun _ => rfl
  case negation =>
    intro s hk ih height
    rw [tracedNegation, negation, Traced.result_call, dif_neg hk, dif_neg hk, ih]
  case group =>
    intro s hk ih height
    rw [tracedTerm, term, Traced.result_call, dif_pos hk, dif_pos hk]
    refine Traced.result_bind rfl ?_
    rintro ⟨s', hs⟩
    refine Traced.result_bind (ih s' hs _) ?_
    rintro ⟨p, hp⟩
    by_cases hr : p.cursor.kind = .rightParen
    · simp only [dif_pos hr]
      exact Traced.result_bind rfl fun _ => rfl
    · simp only [dif_neg hr]
      rfl
  case bad =>
    intro s hl hf e he height
    rw [tracedTerm, term, Traced.result_call, dif_neg hl, dif_neg hl, dif_pos hf, dif_pos hf]
    rfl
  case condition =>
    intro s hl hf p hp height
    rw [tracedTerm, term, Traced.result_call, dif_neg hl, dif_neg hl, dif_pos hf, dif_pos hf]
    rfl
  case other =>
    intro s hl hf height
    rw [tracedTerm, term, Traced.result_call, dif_neg hl, dif_neg hl, dif_neg hf, dif_neg hf]
    rfl

theorem Cursor.result_traced (limit : Nat) (part : Part) (height : Nat) (s : Cursor) :
    (s.traced limit part height).result = s.read limit part := by
  obtain ⟨hchain, -, -, hnegation, hterm⟩ := results_traced limit
  cases part with
  | chain c => exact congrArg plain (hchain c s height)
  | negation => exact congrArg plain (hnegation s height)
  | term => exact congrArg plain (hterm s height)

/-- **Whole texts are read as they are without noting down the calls.** -/
theorem result_tracedFilter (limit : Nat) (text : String) :
    (tracedFilter limit text).result = parseFilter limit text := by
  by_cases hblank : allBlank text = true
  · rw [tracedFilter, if_pos hblank, parseFilter, if_pos hblank]
    rfl
  · rw [parseFilter_eq limit text hblank, tracedFilter, if_neg hblank]
    refine Traced.result_bind rfl fun start => ?_
    refine Traced.result_bind (start.result_traced limit _ 1) fun p => ?_
    split <;> rfl

/-! ## What is noted down -/

namespace Traced

variable {α β : Type}

theorem calls_bind {t : Traced α} {a : α} (k : α → Traced β) (h : t.result = .ok a) :
    (t >>= k).calls = t.calls ++ (k a).calls := by
  obtain ⟨calls, r⟩ := t
  subst h
  rfl

theorem calls_subset_bind (t : Traced α) (k : α → Traced β) : t.calls ⊆ (t >>= k).calls := by
  obtain ⟨calls, r⟩ := t
  cases r with
  | error e => exact List.Subset.refl calls
  | ok a => exact List.subset_append_left calls (k a).calls

/-- Nothing is noted down behind a step if what follows makes no calls. -/
theorem calls_bind_of_nil {t : Traced α} {k : α → Traced β} (h : ∀ a, (k a).calls = []) :
    (t >>= k).calls = t.calls := by
  obtain ⟨calls, r⟩ := t
  cases r with
  | error e => rfl
  | ok a => exact (congrArg (calls ++ ·) (h a)).trans (List.append_nil calls)

end Traced

namespace Cursor

variable {limit : Nat} {s m : Cursor}

theorem enter_of_descend (hm : s.descend limit >>= advance = .ok m) (h : 0 < s.left) :
    ∃ hlt, s.enter limit h = .ok ⟨m, hlt⟩ :=
  exists_eq_ok_of_plain ((plain_enter s limit h).trans hm)

/-- Every function notes down its own call. -/
theorem self_mem_calls (limit : Nat) (part : Part) (height : Nat) (s : Cursor) :
    ⟨part, s, height⟩ ∈ (s.traced limit part height).calls := by
  cases part with
  | chain c =>
    rw [traced, tracedChain]
    exact List.mem_cons_self
  | negation =>
    rw [traced, tracedNegation]
    exact List.mem_cons_self
  | term =>
    rw [traced, tracedTerm]
    exact List.mem_cons_self

/-- A chain begins with an operand, so it makes the calls for that. -/
theorem calls_operand_subset (limit : Nat) (c : Connective) (height : Nat) (s : Cursor) :
    (s.traced limit c.operand (height + 1)).calls ⊆ (s.traced limit (.chain c) height).calls := by
  have hoperand : (s.traced limit c.operand (height + 1)).calls =
      (s.tracedOperand limit c (height + 1)).calls := by
    cases c with
    | and => rw [tracedOperand]; rfl
    | or => rw [tracedOperand]; rfl
  rw [hoperand, traced, tracedChain]
  exact List.subset_cons_of_subset _ (Traced.calls_subset_bind _ _)

/-- **A `not` that the limit allows makes a call** of the function that it is read by, with one
more open. -/
theorem calls_not (hk : s.kind = .not) (hm : s.descend limit >>= advance = .ok m)
    (height : Nat) : (s.traced limit .negation height).calls =
      ⟨.negation, s, height⟩ :: (m.traced limit .negation (height + 1)).calls := by
  obtain ⟨h, henter⟩ := enter_of_descend hm (left_pos hk (by decide))
  rw [traced, tracedNegation, dif_pos hk]
  refine congrArg (Call.mk .negation s height :: ·) ?_
  rw [Traced.calls_bind _ henter]
  exact Traced.calls_bind_of_nil fun _ => rfl

theorem calls_negation (hk : s.kind ≠ .not) (height : Nat) :
    (s.traced limit .negation height).calls =
      ⟨.negation, s, height⟩ :: (s.traced limit .term (height + 1)).calls := by
  rw [traced, tracedNegation, dif_neg hk]
  rfl

/-- **A bracket that the limit allows makes a call** of the function for whole filters. -/
theorem calls_group (hk : s.kind = .leftParen) (hm : s.descend limit >>= advance = .ok m)
    (height : Nat) : (s.traced limit .term height).calls =
      ⟨.term, s, height⟩ :: (m.traced limit (.chain .or) (height + 1)).calls := by
  obtain ⟨h, henter⟩ := enter_of_descend hm (left_pos hk (by decide))
  change (s.tracedTerm limit height).calls = _
  rw [tracedTerm, dif_pos hk]
  refine congrArg (Call.mk .term s height :: ·) ?_
  rw [Traced.calls_bind _ henter]
  refine Traced.calls_bind_of_nil ?_
  rintro ⟨p, hp⟩
  by_cases hr : p.cursor.kind = .rightParen
  · simp only [dif_pos hr]
    exact Traced.calls_bind_of_nil fun _ => rfl
  · simp only [dif_neg hr]
    rfl

end Cursor

/-- The calls for a text are those that are made from its start. -/
theorem calls_tracedFilter {text : String} {start : Cursor} (hb : ¬ allBlank text = true)
    (hs : Cursor.ofTokens (tokensOf text) = .ok start) (limit : Nat) :
    (tracedFilter limit text).calls = (start.traced limit (.chain .or) 1).calls := by
  rw [tracedFilter, if_neg hb, Traced.calls_bind _ hs]
  refine Traced.calls_bind_of_nil fun p => ?_
  split <;> rfl

end RecordQuery
