import RecordQuery.Proofs.Filter.Limits
import RecordQuery.Proofs.Filter.Tracing
/-!
# How far the recursion of the parser goes

Reading a part closes what it opens, so as many brackets and `not`s are open behind it as
in front of it, however many they are (`Cursor.returns_of_read`). So the calls inside of
each other can be told by what is open where they are made: there are no more than four for
each bracket or `not`, and no more of those than the limit allows (`Call.Inside`). And since
no more than four calls are made before a token is passed, the length of a text bounds
their number (`Traced.Costs`).
-/

namespace RecordQuery

/-- How many functions more are called, one by the other, before a token is passed. -/
def Part.rank : Part → Nat
  | .chain .or => 3
  | .chain .and => 2
  | .negation => 1
  | .term => 0

theorem Part.rank_chain (c : Connective) : (Part.chain c).rank = c.operand.rank + 1 := by
  cases c <;> rfl

theorem Part.rank_le (part : Part) : part.rank ≤ 3 := by
  rcases part with (_ | _) | _ | _ <;> decide

/-! ## What a reading leaves behind -/

namespace Cursor

variable {limit : Nat} {s : Cursor} {p : Parsed}

/-- **Reading closes what it opens, tells the depth of the tree, and takes tokens.** Also from
a place where more is open than the limit allows. -/
theorem returns_of_read {part : Part} (h : s.read limit part = .ok p) :
    p.cursor.opened = s.opened ∧ p.depth = p.tree.depth ∧
      ∃ ts, ts ≠ [] ∧ s.ahead = ts ++ p.cursor.ahead := by
  -- under a limit that allows what is open the same is read
  have hgreater : s.read (max limit s.opened) part = .ok p := by
    refine (agrees_part (le_max_left limit s.opened) part s fun _ hdeep => ?_).trans h
    rw [hdeep] at h
    cases h
  obtain ⟨ws, n, hacc⟩ := Accepts.of_read (le_max_right limit s.opened) hgreater
  obtain ⟨ts, rfl, hts⟩ := hacc.before.ahead
  refine ⟨hacc.before.opened, hacc.depth, ts, ?_, hts⟩
  rintro rfl
  exact hacc.derives.ne_nil rfl

end Cursor

/-! ## Budgets for calls -/

namespace Traced

variable {α β : Type} {C : Call → Prop} {budget : Nat} {t : Traced α}

/-- A step whose calls are all as `C` says, and no more than its budget, from which it keeps
something for what comes next, depending on its result. -/
structure Costs (C : Call → Prop) (budget : Nat) (kept : α → Nat) (t : Traced α) : Prop where
  calls : ∀ call ∈ t.calls, C call
  number : t.calls.length ≤ budget
  kept : ∀ a, t.result = .ok a → t.calls.length + kept a ≤ budget

namespace Costs

variable {kept : α → Nat}

/-- What comes next lives on what has been kept. -/
theorem bind {k : α → Traced β} {kept' : β → Nat} (h : t.Costs C budget kept)
    (hk : ∀ a, t.result = .ok a → (k a).Costs C (kept a) kept') :
    (t >>= k).Costs C budget kept' := by
  obtain ⟨calls, r⟩ := t
  cases r with
  | error e => exact ⟨h.calls, h.number, nofun⟩
  | ok a =>
    obtain ⟨hcalls, hnumber, hkept⟩ := hk a rfl
    have hleft : calls.length + kept a ≤ budget := h.kept a rfl
    have hlength : ((Traced.mk calls (.ok a)) >>= k).calls.length =
        calls.length + (k a).calls.length := List.length_append
    refine ⟨List.forall_mem_append.2 ⟨h.calls, hcalls⟩, by omega, fun b hb => ?_⟩
    have := hkept b hb
    omega

theorem call {part : Part} {s : Cursor} {height : Nat} (hc : C ⟨part, s, height⟩)
    (h : t.Costs C budget kept) :
    (do Traced.call part s height; t).Costs C (budget + 1) kept := by
  have hcall : (Traced.call part s height).Costs C (budget + 1) fun _ => budget :=
    ⟨List.forall_mem_singleton.2 hc, Nat.le_add_left 1 budget,
      fun _ _ => Nat.le_of_eq (Nat.add_comm 1 budget)⟩
  exact hcall.bind fun _ _ => h

theorem ofResult {r : Except ParseError α} (kept : α → Nat) (h : ∀ a, r = .ok a → kept a ≤ budget) :
    (Traced.ofResult r).Costs C budget kept :=
  ⟨List.forall_mem_nil _, Nat.zero_le _, fun a ha => (Nat.zero_add _).trans_le (h a ha)⟩

theorem pure {a : α} (h : kept a ≤ budget) : (pure a : Traced α).Costs C budget kept := by
  refine ofResult kept fun b hb => ?_
  cases hb
  exact h

theorem error (e : ParseError) : (Traced.ofResult (.error e)).Costs C budget kept :=
  ofResult kept nofun

/-- Each token that is passed pays for four calls. -/
theorem moved {s : Cursor} (n : Nat) (r : Except ParseError { s' : Cursor // s'.left < s.left }) :
    (Traced.ofResult r).Costs C (4 * s.left + n) fun s' => 4 * s'.1.left + (n + 4) := by
  refine ofResult _ fun s' _ => ?_
  have := s'.2
  omega

theorem weaken {C' : Call → Prop} {budget' : Nat} (h : t.Costs C budget kept)
    (hC : ∀ call, C call → C' call) (hle : budget ≤ budget') : t.Costs C' budget' kept :=
  ⟨fun call hcall => hC call (h.calls call hcall), h.number.trans hle,
    fun a ha => (h.kept a ha).trans hle⟩

theorem plain {p : α → Prop} {t : Traced { a // p a }} (h : t.Costs C budget fun a => kept a.1) :
    t.plain.Costs C budget kept := by
  refine ⟨h.calls, h.number, fun a ha => ?_⟩
  obtain ⟨hp, ha⟩ := exists_eq_ok_of_plain (r := t.result) ha
  exact h.kept ⟨a, hp⟩ ha

end Costs

end Traced

/-- A call that is made where `base` brackets and `not`s are open, or behind further ones that
the limit allows. With those that it makes itself before a token is passed, no more than `top`
calls are unfinished, and four more for each further bracket or `not`. -/
structure Call.Inside (limit base top : Nat) (call : Call) : Prop where
  opened : call.place.opened = base ∨ base < call.place.opened ∧ call.place.opened ≤ limit
  height : call.height + call.part.rank + 4 * base ≤ top + 4 * call.place.opened

namespace Call.Inside

variable {limit base top top' : Nat} {call : Call}

/-- The call itself. -/
theorem self (limit : Nat) (part : Part) (s : Cursor) (height : Nat) :
    Inside limit s.opened (height + part.rank) ⟨part, s, height⟩ :=
  ⟨.inl rfl, Nat.le_refl _⟩

/-- Calls inside a bracket or a `not` that the limit allows. -/
theorem nested (h : call.Inside limit (base + 1) top') (hle : base + 1 ≤ limit)
    (htop : top' ≤ top + 4) : call.Inside limit base top := by
  obtain ⟨hopened, hcall⟩ := h
  exact ⟨by omega, by omega⟩

end Call.Inside

/-- The calls made for a part are inside of it, and they are no more than four for each token
that is passed, and as many as it takes to come to the next one. -/
def Traced.Bounded (limit : Nat) (part : Part) (height : Nat) (s : Cursor)
    (t : Traced (ParsedFrom s)) : Prop :=
  t.Costs (Call.Inside limit s.opened (height + part.rank)) (4 * s.left + part.rank + 1)
    fun p => 4 * p.1.cursor.left + 4

/-- Behind a bracket or a `not` one more is open, and its token has paid for the calls that
are made there. -/
theorem Traced.Bounded.nested {limit height : Nat} {part inner : Part} {s m : Cursor}
    {t : Traced (ParsedFrom m)} (h : t.Bounded limit inner (height + 1) m)
    (hm : m.opened = s.opened + 1 ∧ s.opened + 1 ≤ limit) (hrank : inner.rank ≤ part.rank + 3) :
    t.Costs (Call.Inside limit s.opened (height + part.rank)) (4 * m.left + (part.rank + 4))
      fun p => 4 * p.1.cursor.left + 4 := by
  obtain ⟨hopened, hle⟩ := hm
  rw [Traced.Bounded, hopened] at h
  exact h.weaken (fun _ hcall => hcall.nested hle (by omega)) (by omega)

namespace Cursor

variable {limit : Nat} {s : Cursor}

theorem opened_of_tracedOperand {c : Connective} {height : Nat} {p : ParsedFrom s}
    (h : (s.tracedOperand limit c height).result = .ok p) : p.1.cursor.opened = s.opened := by
  have hread : s.read limit c.operand = .ok p.1 := by
    rw [← plain_operand, ← (results_traced limit).2.2.1 c s height, h]
    rfl
  exact (returns_of_read hread).1

theorem opened_of_skip (h : 0 < s.left) {s' : { s' : Cursor // s'.left < s.left }}
    (hs : s.skip h = .ok s') : s'.1.opened = s.opened := by
  have hadvance : s.advance = .ok s'.1 := by
    rw [← plain_skip s h, hs]
    rfl
  rw [(of_advance hadvance).1]

theorem opened_of_enter (h : 0 < s.left) {s' : { s' : Cursor // s'.left < s.left }}
    (hs : s.enter limit h = .ok s') : s'.1.opened = s.opened + 1 ∧ s.opened + 1 ≤ limit := by
  have henter : s.descend limit >>= advance = .ok s'.1 := by
    rw [← plain_enter s limit h, hs]
    rfl
  obtain ⟨hopen, hb⟩ := enter_eq_ok henter h
  exact ⟨hb.opened, Nat.not_lt.1 hopen⟩

/-- **The calls made for each part are bounded.** -/
theorem bounded_traced (limit : Nat) :
    (∀ (c : Connective) (s : Cursor) (height : Nat),
      (s.tracedChain limit c height).Bounded limit (.chain c) height s) ∧
    (∀ (c : Connective) (p : Parsed) (height : Nat),
      (p.tracedExtend limit c height).Costs
        (Call.Inside limit p.cursor.opened (height + c.operand.rank))
        (4 * p.cursor.left + 4) fun q => 4 * q.1.cursor.left + 4) ∧
    (∀ (c : Connective) (s : Cursor) (height : Nat),
      (s.tracedOperand limit c height).Bounded limit c.operand height s) ∧
    (∀ (s : Cursor) (height : Nat),
      (s.tracedNegation limit height).Bounded limit .negation height s) ∧
    (∀ (s : Cursor) (height : Nat), (s.tracedTerm limit height).Bounded limit .term height s) := by
  -- along the recursion; a chain goes on where as much is open as at its beginning, since
  -- each operand closes what it opens
  refine chain.mutual_induct _ _ _ _ _ ?chain ?more ?last ?or ?and ?not ?negation ?group ?bad
    ?condition ?other
  case chain =>
    intro c s ihop ihext height
    have hrank : height + (Part.chain c).rank = height + 1 + c.operand.rank := by
      rw [Part.rank_chain]
      omega
    rw [tracedChain]
    refine .call (.self limit _ s height) ?_
    rw [hrank, Part.rank_chain]
    refine .bind (ihop (height + 1)) ?_
    rintro ⟨first, hf⟩ hfirst
    have hext := ihext first hf (height + 1)
    rw [show first.cursor.opened = s.opened from opened_of_tracedOperand hfirst] at hext
    exact .bind hext fun _ _ => .pure (Nat.le_refl _)
  case more =>
    intro c p hk ihop ihext height
    have hrank := c.operand.rank_le
    rw [Parsed.tracedExtend, dif_pos hk]
    refine .bind (.moved 4 _) ?_
    rintro ⟨s, hs⟩ hskip
    have hsopened : s.opened = p.cursor.opened :=
      opened_of_skip (left_pos hk c.kind_ne_finish) hskip
    have hop := ihop s hs height
    rw [Traced.Bounded, hsopened] at hop
    have hle : 4 * s.left + c.operand.rank + 1 ≤ 4 * s.left + (4 + 4) := by omega
    refine .bind (hop.weaken (fun _ h => h) hle) ?_
    rintro ⟨right, hr⟩ hright
    refine .bind (.ofResult (fun q => 4 * q.1.cursor.left + 4) fun q _ => by rw [q.2]) ?_
    rintro ⟨both, hb⟩ -
    have hopened : both.cursor.opened = p.cursor.opened := by
      rw [hb, ← hsopened]
      exact opened_of_tracedOperand hright
    have hext := ihext s hs right hr both hb height
    rw [hopened] at hext
    exact .bind hext fun _ _ => .pure (Nat.le_refl _)
  case last =>
    intro c p hk height
    rw [Parsed.tracedExtend, dif_neg hk]
    exact .pure (Nat.le_refl _)
  case or =>
    intro s ih height
    rw [tracedOperand]
    exact ih height
  case and =>
    intro s ih height
    rw [tracedOperand]
    exact ih height
  case not =>
    intro s hk ih height
    rw [tracedNegation, dif_pos hk]
    refine .call (.self limit _ s height) ?_
    refine .bind (.moved _ _) ?_
    rintro ⟨s', hs⟩ henter
    have hinner := opened_of_enter (left_pos hk (by decide)) henter
    exact .bind ((ih s' hs (height + 1)).nested hinner (by decide)) fun _ _ =>
      .pure (Nat.le_refl _)
  case negation =>
    intro s hk ih height
    rw [tracedNegation, dif_neg hk]
    exact .call (.self limit _ s height) (ih (height + 1))
  case group =>
    intro s hk ih height
    rw [tracedTerm, dif_pos hk]
    refine .call (.self limit _ s height) ?_
    refine .bind (.moved _ _) ?_
    rintro ⟨s', hs⟩ henter
    have hinner := opened_of_enter (left_pos hk (by decide)) henter
    refine .bind ((ih s' hs (height + 1)).nested hinner (by decide)) ?_
    rintro ⟨p, hp⟩ -
    by_cases hr : p.cursor.kind = .rightParen
    · simp only [dif_pos hr]
      exact .bind (.moved 4 _) fun _ _ => .pure (Nat.add_le_add_left (by decide) _)
    · simp only [dif_neg hr]
      exact .error _
  case bad =>
    intro s hl hf e he height
    rw [tracedTerm, dif_neg hl, dif_pos hf]
    exact .call (.self limit _ s height) (.ofResult _ fun p _ => by have := p.2; omega)
  case condition =>
    intro s hl hf p hp height
    rw [tracedTerm, dif_neg hl, dif_pos hf]
    exact .call (.self limit _ s height) (.ofResult _ fun p _ => by have := p.2; omega)
  case other =>
    intro s hl hf height
    rw [tracedTerm, dif_neg hl, dif_neg hf]
    exact .call (.self limit _ s height) (.error _)

theorem costs_traced (limit : Nat) (part : Part) (height : Nat) (s : Cursor) :
    (s.traced limit part height).Costs (Call.Inside limit s.opened (height + part.rank))
      (4 * s.left + part.rank + 1) fun p => 4 * p.cursor.left + 4 := by
  obtain ⟨hchain, -, -, hnegation, hterm⟩ := bounded_traced limit
  cases part with
  | chain c => exact .plain (hchain c s height)
  | negation => exact .plain (hnegation s height)
  | term => exact .plain (hterm s height)

end Cursor

/-! ## Whole texts -/

variable {limit : Nat}

/-- From the start of a text, where nothing is open. -/
theorem costs_tracedFilter (limit : Nat) (text : String) :
    (tracedFilter limit text).Costs (Call.Inside limit 0 4)
      (4 * (tokensOf text).tokens.length + 4) fun _ => 0 := by
  rw [tracedFilter]
  split
  · exact .pure (Nat.zero_le _)
  · refine .bind (.ofResult (fun start => 4 * start.left + 4) fun start h => ?_) fun start h => ?_
    · rw [Cursor.left, Cursor.ahead_of_moveTo h]
    · have hcosts := start.costs_traced limit (.chain .or) 1
      have hopened : start.opened = 0 := by rw [(Cursor.of_moveTo h).1]
      rw [hopened] at hcosts
      refine .bind hcosts fun p _ => ?_
      split
      · exact .pure (Nat.zero_le _)
      · exact .error _

/-- **The recursion of the parser is bounded by the limit.** Whatever the place, a function that
returns leaves as many brackets and `not`s open as it found, tells the depth of its tree, and
has passed tokens. The calls on the way are made with as many open, or with more as far as the
limit allows. At most four of them are unfinished at a time, and four more for each that has
been opened, and at most four are made for each token, and four more. So in a whole text no
call is made with more open than the limit, and the tokens bound the number of the calls. -/
theorem recursion_bounded (limit : Nat) :
    (∀ (part : Part) (s : Cursor),
      (∀ p, s.read limit part = .ok p → p.cursor.opened = s.opened ∧ p.depth = p.tree.depth ∧
        ∃ ts, ts ≠ [] ∧ s.ahead = ts ++ p.cursor.ahead) ∧
      (s.traced limit part 1).result = s.read limit part ∧
      (∀ call ∈ (s.traced limit part 1).calls,
        (call.place.opened = s.opened ∨
          s.opened < call.place.opened ∧ call.place.opened ≤ limit) ∧
        call.height ≤ 4 * (call.place.opened - s.opened + 1)) ∧
      (s.traced limit part 1).calls.length ≤ 4 * (s.left + 1)) ∧
    ∀ text : String,
      (tracedFilter limit text).result = parseFilter limit text ∧
      (∀ call ∈ (tracedFilter limit text).calls,
        call.place.opened ≤ limit ∧ call.height ≤ 4 * (limit + 1)) ∧
      (tracedFilter limit text).calls.length ≤ 4 * ((tokensOf text).tokens.length + 1) := by
  constructor
  · intro part s
    obtain ⟨hcalls, hnumber, -⟩ := s.costs_traced limit part 1
    have hrank := part.rank_le
    refine ⟨fun p h => Cursor.returns_of_read h, s.result_traced limit part 1,
      fun call hcall => ?_, by omega⟩
    obtain ⟨hopened, hheight⟩ := hcalls call hcall
    exact ⟨hopened, by omega⟩
  · intro text
    obtain ⟨hcalls, hnumber, -⟩ := costs_tracedFilter limit text
    refine ⟨result_tracedFilter limit text, fun call hcall => ?_, hnumber⟩
    obtain ⟨hopened, hheight⟩ := hcalls call hcall
    exact ⟨by omega, by omega⟩

/-- A negated bracket at the beginning of a filter is read with two more open, inside of five
calls: two for the chains, two for the `not`, and one for the bracket. -/
theorem Cursor.mem_calls_of_negatedGroup {s s' : Cursor} {ws : List Word} {t t' : String}
    (hb : s.Before ((.not, t) :: (.leftParen, t') :: ws) s') (hle : s.opened + 2 ≤ limit) :
    ∃ m, m.opened = s.opened + 2 ∧ ⟨.chain .or, m, 6⟩ ∈ (s.traced limit (.chain .or) 1).calls := by
  have hopen : ¬ limit < s.opened + 1 := by omega
  obtain ⟨m, hm, hbm⟩ := hb.enter hopen
  have hopened : m.opened = s.opened + 1 := hbm.opened.symm
  have hopen' : ¬ limit < m.opened + 1 := by omega
  obtain ⟨m', hm', hbm'⟩ := hbm.enter hopen'
  have hne : m.kind ≠ .not := by rw [hbm.kind]; exact nofun
  refine ⟨m', hbm'.opened.symm.trans (by rw [hopened]), ?_⟩
  have hgroup : ⟨.chain .or, m', 6⟩ ∈ (s.traced limit .negation 3).calls := by
    rw [calls_not hb.kind hm, calls_negation hne, calls_group hbm.kind hm']
    exact .tail _ (.tail _ (.tail _ (self_mem_calls limit _ 6 m')))
  exact calls_operand_subset limit .or 1 s (calls_operand_subset limit .and 2 s hgroup)

/-- A test at a place with more open than the limit allows. -/
def testInside : Cursor := ⟨[⟨.field, "a", 5⟩, ⟨.eq, "==", 7⟩, ⟨.null, "null", 10⟩], .ok 14, 2⟩

/-- The test is read there and leaves as much open. And under a limit of two the call for what
the bracket of a negated junction holds is made with two open. -/
theorem negatedPair_recursion_bounded :
    testInside.read 0 .term = .ok ⟨.condition ⟨["a"], .isNull, false⟩, 1, ⟨[], .ok 14, 2⟩⟩ ∧
      (∃ ts, ts ≠ [] ∧ testInside.ahead = ts ++ []) ∧
      ∃ m, ⟨.chain .or, m, 6⟩ ∈ (tracedFilter 2 negatedPair.text).calls ∧ m.opened = 2 ∧
        m.opened ≤ 2 ∧ 6 ≤ 4 * (2 + 1) := by
  have hread : testInside.read 0 .term = .ok ⟨.condition ⟨["a"], .isNull, false⟩, 1,
      ⟨[], .ok 14, 2⟩⟩ := Cursor.read_condition rfl
  obtain ⟨-, -, htaken⟩ := ((recursion_bounded 0).1 .term testInside).1 _ hread
  obtain ⟨ts, stop, hts, hmap⟩ := (Filter.spells_text (f := negatedPair) (by decide)).tokensOf
  have hstart : Cursor.ofTokens (tokensOf negatedPair.text) = .ok ⟨ts, .ok stop, 0⟩ := by
    rw [hts]
    exact Cursor.ofTokens_of_stop rfl
  have hb : Cursor.Before ⟨ts, .ok stop, 0⟩ negatedPair.words ⟨[], .ok stop, 0⟩ :=
    hmap ▸ .whole ts stop 0
  have hroom : 0 + 2 ≤ 2 := Nat.le_refl 2
  obtain ⟨m, hopened, hcall⟩ := Cursor.mem_calls_of_negatedGroup hb hroom
  rw [← calls_tracedFilter (by decide) hstart] at hcall
  obtain ⟨hle, hheight⟩ := ((recursion_bounded 2).2 negatedPair.text).2.1 _ hcall
  exact ⟨hread, htaken, m, hcall, hopened, hle, hheight⟩

end RecordQuery
