import RecordQuery.Proofs.Filter.Expectation
/-!
# Where the parser stops

The parser never passes a word that cannot stand where it is. Where reading fails,
and nothing is too deep, the words in front of the place lead to what is due there
(`Expectation.Leads`), and there is no step for the word at the place, or no word
because a stray symbol stands behind them (`StopsAt`). The kinds that the error names
are told by what is due and by the word (`Expectation.listed`). They are the kinds
that are due, with two exceptions: inside brackets only the closing one is named, and
instead of a number that is not finite only another number.
-/

namespace RecordQuery

/-- The kinds that the parser names where it takes no step. -/
def Expectation.listed : Expectation → Word → List TokenKind
  | ⟨.connective, _ + 1⟩, _ => [.rightParen]
  | ⟨.literal k hk, n⟩, w =>
    if (k = .eq ∨ k = .ne) ∧ w.1 = .number then [.number] else due ⟨.literal k hk, n⟩
  | e, _ => e.due

open Expectation

/-- How reading fails from a place on, where `e` is due. -/
inductive StopsAt (e : Expectation) (s : Cursor) : ParseError → Prop
  | tooDeep (limit position : Nat) : StopsAt e s (.tooDeep limit position)
  | stray {symbol : Stray} {e' : Expectation} (hs : s.stop = .error symbol)
      (h : Leads e (s.ahead.map Token.word) e') : StopsAt e s (.stray symbol)
  | unexpected {ws : List Word} {m : Cursor} {e' : Expectation} (hb : s.Before ws m)
      (h : Leads e ws e') (hstuck : ∀ e'', ¬ e'.Step m.current.word e'') :
      StopsAt e s (m.unexpected (e'.listed m.current.word))

namespace StopsAt

variable {e e' : Expectation} {s m : Cursor} {ws : List Word} {x : ParseError}

/-- Reading that fails behind some words fails in front of them in the same way. -/
theorem behind (h : StopsAt e' m x) (hb : s.Before ws m) (hws : Leads e ws e') :
    StopsAt e s x := by
  cases h with
  | tooDeep limit position => exact .tooDeep limit position
  | stray hs h =>
    obtain ⟨ts, rfl, hts⟩ := hb.ahead
    have hall := hws.append h
    rw [← List.map_append, ← hts] at hall
    exact .stray (hb.stop ▸ hs) hall
  | unexpected hb' h hstuck => exact .unexpected (hb.trans hb') (hws.append h) hstuck

/-- Where reading stops does not depend on what is open there. -/
theorem reopen {n : Nat} (h : StopsAt e { s with opened := n } x) : StopsAt e s x := by
  cases h with
  | tooDeep limit position => exact .tooDeep limit position
  | stray hs h => exact .stray hs h
  | @unexpected ws m e' hb h hstuck =>
    have hb' : s.Before ws { m with opened := s.opened } := hb.reopen s.opened
    have hstops : StopsAt e s (Cursor.unexpected { m with opened := s.opened } _) :=
      .unexpected hb' h hstuck
    exact hstops

/-- A word that cannot be passed has a stray symbol behind it. -/
theorem of_advance (h : s.advance = .error x) (hs : 0 < s.left)
    (hstep : e.Step s.current.word e') : StopsAt e s x := by
  obtain ⟨t, ts, hts⟩ := List.exists_cons_of_ne_nil (List.length_pos_iff.1 hs)
  simp only [Cursor.advance, Cursor.moveTo] at h
  split at h
  · next symbol hnil hstop =>
    cases h
    rw [hts, List.tail_cons] at hnil
    have hleads : Leads e (s.ahead.map Token.word) e' := by
      rw [hts, hnil]
      rw [Cursor.current, hts] at hstep
      exact .single hstep
    exact .stray hstop hleads
  · cases h

end StopsAt

namespace Cursor

variable {limit n : Nat} {s m : Cursor} {k : TokenKind} {x : ParseError} {p q : Parsed}
  {c : Connective}

/-- Whether the text goes on at a place or ends well. -/
def Clear (s : Cursor) : Prop := s.ahead = [] → ∃ p, s.stop = .ok p

theorem Before.refl (h : s.Clear) : s.Before [] s := ⟨⟨[], rfl, rfl⟩, rfl, rfl, h⟩

/-- The parser stops at a word that there is no step for. -/
theorem stopsAt_unexpected {e : Expectation} {expected : List TokenKind} (hs : s.Clear)
    (hstuck : ∀ e', ¬ e.Step s.current.word e') (h : e.listed s.current.word = expected) :
    StopsAt e s (s.unexpected expected) :=
  h ▸ .unexpected (.refl hs) (.nil e) hstuck

/-! ## Conditions -/

/-- The kinds that a literal is refused with where it makes no test. -/
theorem unexpected_of_test (hk : k.isComparison = true) (h : s.test k = .error x) :
    x = s.unexpected (listed ⟨.literal k hk, n⟩ s.current.word) := by
  have hword : s.current.word.1 = s.current.kind := rfl
  rw [Cursor.test] at h
  rw [listed, due, hword]
  by_cases heq : k = .eq ∨ k = .ne
  · rw [if_pos heq] at h ⊢
    cases hl : s.current.kind with
    | number =>
      rw [if_pos ⟨heq, rfl⟩]
      simp only [hl] at h
      split at h
      · cases h
      · cases h
        rfl
    | string =>
      rw [hl] at h
      cases h
    | null =>
      rw [hl] at h
      cases h
    | _ =>
      rw [hl] at h
      cases h
      rw [if_neg fun h => absurd h.2 (by decide)]
  · rw [if_neg heq] at h ⊢
    rw [if_neg fun h => heq h.1]
    by_cases hlike : k = .like ∨ k = .unlike
    · rw [if_pos hlike] at h ⊢
      split at h
      · cases h
      · cases h
        rfl
    · rw [if_neg hlike] at h ⊢
      split at h
      · simp only at h
        split at h
        · cases h
        · cases h
          rfl
      · cases h
        rfl

/-- A literal that makes no test does not suit the operator. -/
theorem stopsAt_test (hs : s.Clear) (hk : k.isComparison = true) (h : s.test k = .error x) :
    StopsAt ⟨.literal k hk, n⟩ s x := by
  have hstuck : ∀ e', ¬ Step ⟨.literal k hk, n⟩ s.current.word e' := by
    intro e' hstep
    cases hstep with
    | literal hsuits =>
      rw [test_of_suits hsuits rfl] at h
      cases h
  rw [unexpected_of_test hk h]
  exact stopsAt_unexpected hs hstuck rfl

theorem clear_of_advance (h : s.advance = .ok m) : m.Clear := (of_advance h).2

/-- A condition that is not read is refused at the first of its words that is not
due. -/
theorem stopsAt_condition (hs : s.kind = .field) (h : s.condition = .error x) :
    StopsAt ⟨.operand, n⟩ s x := by
  have hpos : 0 < s.left := left_pos hs (by decide)
  have hfield : Step ⟨.operand, n⟩ s.current.word ⟨.comparison, n⟩ := word_of_kind hs ▸ .field _
  rw [condition] at h
  rcases bind_eq_error.1 h with h | ⟨m, hm, h⟩
  · exact .of_advance h hpos hfield
  refine StopsAt.behind ?_ (Before.of_advance hm hpos) (.single hfield)
  have hclear := clear_of_advance hm
  by_cases hk : m.kind.isComparison = true
  · have hneg : ¬ (!m.kind.isComparison) = true := by
      rw [hk]
      decide
    have hfinish : m.kind ≠ .finish := by
      intro hf
      rw [hf] at hk
      exact absurd hk (by decide)
    have hpos' : 0 < m.left := left_pos rfl hfinish
    have hcomparison : Step ⟨.comparison, n⟩ m.current.word ⟨.literal m.kind hk, n⟩ :=
      .comparison _ hk
    simp only [if_neg hneg] at h
    rcases bind_eq_error.1 h with h | ⟨m', hm', h⟩
    · exact .of_advance h hpos' hcomparison
    refine StopsAt.behind ?_ (Before.of_advance hm' hpos') (.single hcomparison)
    rcases bind_eq_error.1 h with h | ⟨⟨test, negated⟩, htest, h⟩
    · exact stopsAt_test (clear_of_advance hm') hk h
    have hsuits := suits_of_test hk htest
    have hpos'' : 0 < m'.left := left_pos rfl hsuits.kind_ne_finish
    rcases bind_eq_error.1 h with h | ⟨m'', hm'', h⟩
    · exact .of_advance h hpos'' (.literal hsuits)
    · cases h
  · have hno : (!m.kind.isComparison) = true := by
      rw [Bool.eq_false_iff.2 hk]
      rfl
    have hstuck : ∀ e', ¬ Step ⟨.comparison, n⟩ m.current.word e' := by
      intro e' hstep
      cases hstep with
      | comparison t hc => exact hk hc
    simp only [if_pos hno] at h
    cases h
    exact stopsAt_unexpected hclear hstuck rfl

/-! ## Connectives -/

/-- What follows a chain that has been read does not continue it. -/
theorem kind_of_extended (hp : (Part.chain c).stopsAt p.cursor.kind)
    (hop : ∀ {s : Cursor} {r : Parsed}, s.read limit c.operand = .ok r →
      (Part.chain c).stopsAt r.cursor.kind)
    (h : p.extended limit c = .ok q) :
    q.cursor.kind ≠ c.kind ∧ (Part.chain c).stopsAt q.cursor.kind := by
  -- each operand that is read leaves fewer tokens
  induction hn : p.cursor.left using Nat.strong_induction_on generalizing p with
  | _ n ih =>
    by_cases hk : p.cursor.kind = c.kind
    · rw [Parsed.extended_of_eq hk] at h
      obtain ⟨m, hm, h⟩ := bind_eq_ok h
      obtain ⟨right, hright, h⟩ := bind_eq_ok h
      obtain ⟨both, hboth, h⟩ := bind_eq_ok h
      have hcursor : both.cursor = right.cursor := of_plain_eq_ok (r := p.join c limit right) hboth
      have hlt := left_of_read hright
      have hle := left_of_advance hm
      refine ih both.cursor.left ?_ (hcursor ▸ hop hright) h rfl
      rw [hcursor]
      omega
    · rw [Parsed.extended_of_ne hk] at h
      cases h
      exact ⟨hk, hp⟩

/-- Neither connective follows a filter that has been read. -/
theorem kind_of_read (h : s.read limit (.chain .or) = .ok p) :
    p.cursor.kind ≠ .or ∧ p.cursor.kind ≠ .and := by
  have hand {s : Cursor} {q : Parsed} (h : s.read limit (.chain .and) = .ok q) :
      q.cursor.kind ≠ .and := by
    rw [read_chain] at h
    obtain ⟨first, -, h⟩ := bind_eq_ok h
    exact (kind_of_extended (c := .and) trivial (fun _ => trivial) h).1
  rw [read_chain] at h
  obtain ⟨first, hfirst, h⟩ := bind_eq_ok h
  exact kind_of_extended (c := .or) (hand hfirst) hand h

/-- There is no step for what follows, but closing a bracket or the end. -/
theorem not_step_of_read (h : s.read limit (.chain .or) = .ok p)
    (hclose : p.cursor.kind ≠ if n = 0 then .finish else .rightParen) (e' : Expectation) :
    ¬ Step ⟨.connective, n⟩ p.cursor.current.word e' := by
  intro hstep
  obtain ⟨hor, hand⟩ := kind_of_read h
  have hkind : p.cursor.kind = p.cursor.current.word.1 := rfl
  rw [hkind] at hor hand hclose
  generalize p.cursor.current.word = w at hor hand hclose hstep
  cases hstep with
  | connective t hk => exact hk.elim hand hor
  | rightParen t => exact hclose rfl
  | finish t => exact hclose rfl

/-! ## Parts -/

/-- The words of a part that has been read lead over it. -/
theorem leads_of_read {part : Part} (hs : s.opened ≤ limit) (h : s.read limit part = .ok p) :
    ∃ ws, s.Before ws p.cursor ∧ ∀ n, Leads ⟨.operand, n⟩ ws ⟨.connective, n⟩ := by
  obtain ⟨ws, m, hacc⟩ := Accepts.of_read hs h
  exact ⟨ws, hacc.before, hacc.derives.leads⟩

/-- Inside a bracket or `not` that has been opened, reading fails as it does in
front of it. -/
theorem stopsAt_enter {e e' : Expectation} (hs : 0 < s.left) (hstep : e.Step s.current.word e')
    (hm : s.descend limit >>= advance = .ok m) (h : StopsAt e' m x) : StopsAt e s x := by
  obtain ⟨-, hb⟩ := enter_eq_ok hm hs
  exact (h.behind hb (.single hstep)).reopen

theorem stopsAt_of_enter {e e' : Expectation} (hs : 0 < s.left)
    (hstep : e.Step s.current.word e') (h : s.descend limit >>= advance = .error x) :
    StopsAt e s x := by
  by_cases hopen : limit < s.opened + 1
  · rw [enter_of_lt hopen] at h
    cases h
    exact .tooDeep limit _
  · rw [descend, if_neg hopen] at h
    have hpos : 0 < left { s with opened := s.opened + 1 } := hs
    exact (StopsAt.of_advance h hpos hstep).reopen

theorem opened_of_advance (h : s.advance = .ok m) : m.opened = s.opened := by
  rw [(of_advance h).1]

theorem clear_of_enter (h : s.descend limit >>= advance = .ok m) : m.Clear := by
  obtain ⟨opened, -, h⟩ := bind_eq_ok h
  exact clear_of_advance h

/-- **Every part that is not read stops where a word is not due.** -/
theorem stopsAt_of_read (limit : Nat) :
    (∀ (c : Connective) (s : Cursor), s.opened ≤ limit → s.Clear → ∀ n x,
      s.read limit (.chain c) = .error x → StopsAt ⟨.operand, n⟩ s x) ∧
    (∀ (c : Connective) (p : Parsed), p.cursor.opened ≤ limit → ∀ n x,
      p.extended limit c = .error x → StopsAt ⟨.connective, n⟩ p.cursor x) ∧
    (∀ (c : Connective) (s : Cursor), s.opened ≤ limit → s.Clear → ∀ n x,
      s.read limit c.operand = .error x → StopsAt ⟨.operand, n⟩ s x) ∧
    (∀ s : Cursor, s.opened ≤ limit → s.Clear → ∀ n x,
      s.read limit .negation = .error x → StopsAt ⟨.operand, n⟩ s x) ∧
    (∀ s : Cursor, s.opened ≤ limit → s.Clear → s.kind ≠ .not → ∀ n x,
      s.read limit .term = .error x → StopsAt ⟨.operand, n⟩ s x) := by
  -- what has been read before the failure is known from `leads_of_read`
  refine chain.mutual_induct _ _ _ _ _ ?chain ?more ?last ?or ?and ?not ?negation ?group ?bad
    ?condition ?other
  case chain =>
    intro c s ihop ihext hs hclear n x h
    rw [read_chain] at h
    rcases bind_eq_error.1 h with h | ⟨first, hfirst, h⟩
    · exact ihop hs hclear n x h
    · obtain ⟨ws, hb, hleads⟩ := leads_of_read hs hfirst
      have hopened : first.cursor.opened ≤ limit := hb.opened ▸ hs
      exact (ihext first (left_of_read hfirst) hopened n x h).behind hb (hleads n)
  case more =>
    intro c p hk ihop ihext hp n x h
    have hpos : 0 < p.cursor.left := left_pos hk c.kind_ne_finish
    have hstep : Step ⟨.connective, n⟩ p.cursor.current.word ⟨.operand, n⟩ :=
      word_of_kind hk ▸ .connective _ c.kind_cases
    rw [Parsed.extended_of_eq hk] at h
    rcases bind_eq_error.1 h with h | ⟨m, hm, h⟩
    · exact .of_advance h hpos hstep
    refine StopsAt.behind ?_ (Before.of_advance hm hpos) (.single hstep)
    have hopened : m.opened ≤ limit := opened_of_advance hm ▸ hp
    have hleft : m.left < p.cursor.left := by
      rw [left_of_advance hm]
      omega
    rcases bind_eq_error.1 h with h | ⟨right, hright, h⟩
    · exact ihop m hleft hopened (clear_of_advance hm) n x h
    rcases bind_eq_error.1 h with h | ⟨both, hboth, h⟩
    · rw [Parsed.joined_eq] at h
      split at h
      · cases h
        exact .tooDeep limit _
      · cases h
    · -- the joined tree ends where its right side does
      have hcursor : both.cursor = right.cursor := of_plain_eq_ok (r := p.join c limit right) hboth
      obtain ⟨ws, hb, hleads⟩ := leads_of_read hopened hright
      rw [← hcursor] at hb
      have hboth' : both.cursor.opened ≤ limit := hb.opened ▸ hopened
      have hstops := ihext m hleft right (left_of_read hright) both hcursor hboth' n x h
      exact hstops.behind hb (hleads n)
  case last =>
    intro c p hk _ n x h
    rw [Parsed.extended_of_ne hk] at h
    cases h
  case or => exact fun s ih => ih
  case and => exact fun s ih => ih
  case not =>
    intro s hk ih hs hclear n x h
    have hpos : 0 < s.left := left_pos hk (by decide)
    have hstep : Step ⟨.operand, n⟩ s.current.word ⟨.operand, n⟩ := word_of_kind hk ▸ .not _
    rw [read_not hk] at h
    rcases bind_eq_error.1 h with h | ⟨m, hm, h⟩
    · exact stopsAt_of_enter hpos hstep h
    obtain ⟨hopened, hleft⟩ := left_of_enter hm hpos
    rcases bind_eq_error.1 h with h | ⟨q, hq, h⟩
    · exact stopsAt_enter hpos hstep hm (ih m hleft hopened (clear_of_enter hm) n x h)
    · cases h
  case negation =>
    intro s hk ih hs hclear n x h
    rw [read_negation hk] at h
    exact ih hs hclear hk n x h
  case group =>
    intro s hk ih hs hclear _ n x h
    have hpos : 0 < s.left := left_pos hk (by decide)
    have hstep : Step ⟨.operand, n⟩ s.current.word ⟨.operand, n + 1⟩ :=
      word_of_kind hk ▸ .leftParen _
    rw [read_group hk] at h
    rcases bind_eq_error.1 h with h | ⟨m, hm, h⟩
    · exact stopsAt_of_enter hpos hstep h
    obtain ⟨hopened, hleft⟩ := left_of_enter hm hpos
    refine stopsAt_enter hpos hstep hm ?_
    rcases bind_eq_error.1 h with h | ⟨q, hq, h⟩
    · exact ih m hleft hopened (clear_of_enter hm) (n + 1) x h
    obtain ⟨ws, hb, hleads⟩ := leads_of_read hopened hq
    refine StopsAt.behind ?_ hb (hleads (n + 1))
    by_cases hr : q.cursor.kind = .rightParen
    · rw [if_pos hr] at h
      have hclose : Step ⟨.connective, n + 1⟩ q.cursor.current.word ⟨.connective, n⟩ :=
        word_of_kind hr ▸ .rightParen _
      rcases bind_eq_error.1 h with h | ⟨after, ha, h⟩
      · exact .of_advance h (left_pos hr (by decide)) hclose
      · cases h
    · rw [if_neg hr] at h
      cases h
      exact stopsAt_unexpected hb.clear (not_step_of_read hq hr) rfl
  case bad =>
    intro s _ hf e he hs hclear _ n x h
    rw [read_condition hf] at h
    exact stopsAt_condition hf h
  case condition =>
    intro s _ hf p hp hs hclear _ n x h
    rw [read_condition hf] at h
    exact stopsAt_condition hf h
  case other =>
    intro s hl hf hs hclear hn n x h
    have hstuck : ∀ e', ¬ Step ⟨.operand, n⟩ s.current.word e' := by
      intro e' hstep
      have hkind : s.kind = s.current.word.1 := rfl
      rw [hkind] at hl hf hn
      generalize s.current.word = w at hl hf hn hstep
      cases hstep with
      | not t => exact hn rfl
      | leftParen t => exact hl rfl
      | field path => exact hf rfl
    rw [read_term hl hf] at h
    cases h
    exact stopsAt_unexpected hclear hstuck rfl

end Cursor

/-! ## Whole texts -/

/-- The place in front of a text. -/
def Tokens.cursor (ts : Tokens) : Cursor := ⟨ts.tokens, ts.stop, 0⟩

theorem not_allBlank_of_error {limit : Nat} {text : String} {x : ParseError}
    (h : parseFilter limit text = .error x) : ¬ allBlank text = true := by
  intro hb
  rw [parseFilter, if_pos hb] at h
  cases h

/-- **A text that is not read stops at a word that is not due**, or at a stray symbol
behind words that all are. -/
theorem stopsAt_of_parseFilter {limit : Nat} {text : String} {x : ParseError}
    (h : parseFilter limit text = .error x) : StopsAt start (tokensOf text).cursor x := by
  rw [parseFilter_eq limit text (not_allBlank_of_error h)] at h
  rcases bind_eq_error.1 h with h | ⟨s, hs, h⟩
  · simp only [Cursor.ofTokens, Cursor.moveTo] at h
    split at h
    · next symbol hnil hstop =>
      cases h
      have hleads : Leads start ((tokensOf text).tokens.map Token.word) start := by
        rw [hnil]
        exact .nil start
      exact .stray hstop hleads
    · cases h
  obtain ⟨rfl, hclear⟩ := Cursor.of_moveTo hs
  rcases bind_eq_error.1 h with h | ⟨p, hp, h⟩
  · exact (Cursor.stopsAt_of_read limit).1 .or _ (Nat.zero_le limit) hclear 0 x h
  · obtain ⟨ws, hb, hleads⟩ := Cursor.leads_of_read (Nat.zero_le limit) hp
    by_cases hk : p.cursor.kind = .finish
    · rw [if_pos hk] at h
      cases h
    · rw [if_neg hk] at h
      cases h
      refine StopsAt.behind ?_ hb (hleads 0)
      exact Cursor.stopsAt_unexpected hb.clear (Cursor.not_step_of_read hp hk) rfl

end RecordQuery
