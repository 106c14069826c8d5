import RecordQuery.Proofs.Filter.Grammar
import RecordQuery.Proofs.Results
/-!
# The parser, without its termination proofs

The functions of the parser return what they have read together with the proof
that they consumed a token. `Cursor.read` forgets the proof, by `plain`, and the
equations of the parser are restated for it, one for each branch, so that
nothing that follows has to open the recursion again. What a branch passes over
is said by `Cursor.Before`: the words between two places at which the same
brackets are open.
-/

namespace RecordQuery

/-! ## Steps of the cursor -/

namespace Cursor

theorem plain_skip (s : Cursor) (h : 0 < s.left) : plain (s.skip h) = s.advance := by
  rw [skip]
  split
  · next hs => exact hs.symm
  · next hs => exact hs.symm

theorem plain_enter (s : Cursor) (limit : Nat) (h : 0 < s.left) :
    plain (s.enter limit h) = s.descend limit >>= advance := by
  rw [enter]
  split
  · next hd => rw [hd]; rfl
  · next opened hd =>
    simp only [hd, bind, Except.bind]
    split
    · next hs => exact (congrArg plain hs).symm.trans (plain_skip opened _)
    · next hs => exact (congrArg plain hs).symm.trans (plain_skip opened _)

/-! ## The equations of the parser -/

/-- What a part is read as. -/
def read (limit : Nat) : Part → Cursor → Except ParseError Parsed
  | .chain c, s => plain (s.chain limit c)
  | .negation, s => plain (s.negation limit)
  | .term, s => plain (s.term limit)

/-- Reading takes a token. -/
theorem left_of_read {limit : Nat} {part : Part} {s : Cursor} {p : Parsed}
    (h : s.read limit part = .ok p) : p.cursor.left < s.left := by
  cases part with
  | chain c => exact of_plain_eq_ok (r := s.chain limit c) h
  | negation => exact of_plain_eq_ok (r := s.negation limit) h
  | term => exact of_plain_eq_ok (r := s.term limit) h

theorem plain_operand (limit : Nat) (c : Connective) (s : Cursor) :
    plain (s.operand limit c) = s.read limit c.operand := by
  cases c with
  | and => rw [operand]; rfl
  | or => rw [operand]; rfl

end Cursor

namespace Parsed

/-- A tree with the operands that follow it. -/
def extended (limit : Nat) (c : Connective) (p : Parsed) : Except ParseError Parsed :=
  plain (p.extend limit c)

/-- Two trees under a connective. -/
def joined (c : Connective) (limit : Nat) (left right : Parsed) : Except ParseError Parsed :=
  plain (left.join c limit right)

theorem joined_eq (c : Connective) (limit : Nat) (left right : Parsed) :
    left.joined c limit right =
      if limit < max left.depth right.depth + 1 then
        .error (.tooDeep limit right.cursor.current.position)
      else .ok ⟨.junction c left.tree right.tree false, max left.depth right.depth + 1,
        right.cursor⟩ := by
  simp only [joined, join]
  split
  · rfl
  · rfl

variable {limit : Nat} {c : Connective} {p : Parsed}

theorem extended_of_ne (h : p.cursor.kind ≠ c.kind) : p.extended limit c = .ok p := by
  rw [extended, extend, dif_neg h]
  rfl

theorem extended_of_eq (h : p.cursor.kind = c.kind) :
    p.extended limit c = (do
      let s ← p.cursor.advance
      let right ← s.read limit c.operand
      let both ← p.joined c limit right
      both.extended limit c) := by
  rw [extended, extend, dif_pos h]
  refine plain_bind (Cursor.plain_skip _ _) fun s =>
    plain_bind (Cursor.plain_operand limit c s.1) fun right => plain_bind rfl fun both => ?_
  rw [← bind_pure (extended limit c both.1)]
  exact plain_bind rfl fun _ => rfl

end Parsed

namespace Cursor

variable {limit : Nat} {s : Cursor}

theorem read_chain (limit : Nat) (c : Connective) (s : Cursor) :
    s.read limit (.chain c) = s.read limit c.operand >>= Parsed.extended limit c := by
  rw [read, chain]
  refine plain_bind (plain_operand limit c s) fun first => ?_
  rw [← bind_pure (Parsed.extended limit c first.1)]
  exact plain_bind rfl fun _ => rfl

theorem read_not (h : s.kind = .not) :
    s.read limit .negation = (do
      let s ← s.descend limit >>= advance
      let p ← s.read limit .negation
      return ⟨p.tree.negate, p.depth, p.cursor.ascend⟩) := by
  rw [read, negation, dif_pos h]
  exact plain_bind (plain_enter _ _ _) fun _ => plain_bind rfl fun _ => rfl

theorem read_negation (h : s.kind ≠ .not) : s.read limit .negation = s.read limit .term := by
  rw [read, negation, dif_neg h]
  rfl

theorem read_group (h : s.kind = .leftParen) :
    s.read limit .term = (do
      let s ← s.descend limit >>= advance
      let p ← s.read limit (.chain .or)
      if p.cursor.kind = .rightParen then
        let after ← p.cursor.advance
        return ⟨p.tree, p.depth, after.ascend⟩
      else throw (p.cursor.unexpected [.rightParen])) := by
  rw [read, term, dif_pos h]
  refine plain_bind (plain_enter _ _ _) fun s => plain_bind rfl fun p => ?_
  by_cases hr : p.1.cursor.kind = .rightParen
  · simp only [dif_pos hr, if_pos hr]
    exact plain_bind (plain_skip _ _) fun _ => rfl
  · simp only [dif_neg hr, if_neg hr]
    rfl

theorem read_condition (h : s.kind = .field) : s.read limit .term = s.condition := by
  have hl : s.kind ≠ .leftParen := by rw [h]; decide
  rw [read, term, dif_neg hl, dif_pos h]
  split
  · next hc => exact hc.symm
  · next hc => exact hc.symm

theorem read_term (hl : s.kind ≠ .leftParen) (hf : s.kind ≠ .field) :
    s.read limit .term = .error (s.unexpected [.field, .not, .leftParen]) := by
  rw [read, term, dif_neg hl, dif_neg hf]
  rfl

/-! ## The words between two places -/

theorem word_of_kind {k : TokenKind} (h : s.kind = k) : s.current.word = (k, s.current.text) := by
  rw [← h]
  rfl

/-- The next token can be passed unless a stray symbol stands behind it. -/
theorem advance_eq {t : Token} {ts : List Token} (h : s.ahead = t :: ts)
    (hc : ts = [] → ∃ p, s.stop = .ok p) : s.advance = .ok { s with ahead := ts } := by
  rw [advance, h, List.tail_cons, moveTo]
  intro symbol hnil hstop
  obtain ⟨p, hp⟩ := hc hnil
  cases hp.symm.trans hstop

/-- Moving leads to the tokens asked for, unless a stray symbol is all there
is. -/
theorem of_moveTo {s' : Cursor} {ts : List Token} (h : s.moveTo ts = .ok s') :
    s' = { s with ahead := ts } ∧ (s'.ahead = [] → ∃ p, s'.stop = .ok p) := by
  simp only [moveTo] at h
  split at h
  · cases h
  · next hne =>
    cases h
    refine ⟨rfl, fun hnil => ?_⟩
    cases hs : s.stop with
    | ok p => exact ⟨p, rfl⟩
    | error e => exact absurd hs (hne e hnil)

/-- The beginning of tokens behind which there is no stray symbol. -/
theorem ofTokens_of_stop {ts : Tokens} {n : Nat} (h : ts.stop = .ok n) :
    ofTokens ts = .ok ⟨ts.tokens, .ok n, 0⟩ := by
  rw [ofTokens, h, moveTo]
  intro symbol _ hstop
  cases hstop

/-- Moving on passes the next token. -/
theorem of_advance {s' : Cursor} (h : s.advance = .ok s') :
    s' = { s with ahead := s.ahead.tail } ∧ (s'.ahead = [] → ∃ p, s'.stop = .ok p) :=
  of_moveTo h

/-- The words `ws` stand between two places, behind the second of which the
text goes on or ends well. -/
structure Before (s : Cursor) (ws : List Word) (s' : Cursor) : Prop where
  ahead : ∃ ts, ts.map Token.word = ws ∧ s.ahead = ts ++ s'.ahead
  stop : s'.stop = s.stop
  opened : s'.opened = s.opened
  clear : s'.ahead = [] → ∃ p, s'.stop = .ok p

namespace Before

variable {m s' : Cursor} {us ws : List Word}

theorem trans (h : s.Before us m) (h' : m.Before ws s') : s.Before (us ++ ws) s' := by
  obtain ⟨ts, rfl, hts⟩ := h.ahead
  obtain ⟨rs, rfl, hrs⟩ := h'.ahead
  refine ⟨⟨ts ++ rs, List.map_append, ?_⟩, h'.stop.trans h.stop, h'.opened.trans h.opened,
    h'.clear⟩
  rw [hts, hrs, List.append_assoc]

/-- All tokens stand between the beginning of a text and its end. -/
theorem whole (ts : List Token) (stop opened : Nat) :
    Before ⟨ts, .ok stop, opened⟩ (ts.map Token.word) ⟨[], .ok stop, opened⟩ :=
  ⟨⟨ts, rfl, (List.append_nil ts).symm⟩, rfl, rfl, fun _ => ⟨stop, rfl⟩⟩

/-- A place between words. -/
theorem split (h : s.Before (us ++ ws) s') : ∃ m, s.Before us m ∧ m.Before ws s' := by
  obtain ⟨ts, hmap, hts⟩ := h.ahead
  obtain ⟨ts, rs, rfl, rfl, rfl⟩ := List.map_eq_append_iff.1 hmap
  rw [List.append_assoc] at hts
  refine ⟨{ s with ahead := rs ++ s'.ahead }, ⟨⟨ts, rfl, hts⟩, rfl, rfl, fun hnil => ?_⟩,
    ⟨⟨rs, rfl, rfl⟩, h.stop, h.opened, h.clear⟩⟩
  obtain ⟨p, hp⟩ := h.clear (List.append_eq_nil_iff.1 hnil).2
  exact ⟨p, h.stop ▸ hp⟩

theorem eq_of_nil (h : s.Before [] s') : s = s' := by
  obtain ⟨ts, hmap, hts⟩ := h.ahead
  obtain rfl := List.map_eq_nil_iff.1 hmap
  obtain ⟨ahead, stop, opened⟩ := s
  obtain ⟨ahead', stop', opened'⟩ := s'
  obtain rfl : ahead = ahead' := hts
  obtain rfl : stop' = stop := h.stop
  obtain rfl : opened' = opened := h.opened
  rfl

/-- The first of the words, and the place behind it. -/
theorem current {w : Word} (h : s.Before (w :: ws) s') : s.current.word = w := by
  obtain ⟨ts, hmap, hts⟩ := h.ahead
  obtain ⟨t, ts, rfl, rfl, -⟩ := List.map_eq_cons_iff.1 hmap
  rw [Cursor.current, hts]
  rfl

theorem kind {w : Word} (h : s.Before (w :: ws) s') : s.kind = w.1 := congrArg Prod.fst h.current

theorem text {w : Word} (h : s.Before (w :: ws) s') : s.current.text = w.2 :=
  congrArg Prod.snd h.current

theorem advance {w : Word} (h : s.Before (w :: ws) s') :
    ∃ m, s.advance = .ok m ∧ m.Before ws s' := by
  obtain ⟨ts, hmap, hts⟩ := h.ahead
  obtain ⟨t, ts, rfl, -, rfl⟩ := List.map_eq_cons_iff.1 hmap
  have hclear : ts ++ s'.ahead = [] → ∃ p, s.stop = .ok p := by
    intro hnil
    obtain ⟨p, hp⟩ := h.clear (List.append_eq_nil_iff.1 hnil).2
    exact ⟨p, h.stop ▸ hp⟩
  exact ⟨_, advance_eq hts hclear, ⟨ts, rfl, rfl⟩, h.stop, h.opened, h.clear⟩

/-- Passing a token that is there. -/
theorem of_advance (h : s.advance = .ok s') (hs : 0 < s.left) :
    s.Before [s.current.word] s' := by
  obtain ⟨rfl, hclear⟩ := Cursor.of_advance h
  obtain ⟨t, ts, hts⟩ := List.exists_cons_of_ne_nil (List.length_pos_iff.1 hs)
  refine ⟨⟨[t], ?_, ?_⟩, rfl, rfl, hclear⟩
  · rw [Cursor.current, hts]
    rfl
  · rw [hts]
    rfl

/-- What stands between two places does not depend on what is open there. -/
theorem reopen (h : s.Before ws s') (n : Nat) :
    Before { s with opened := n } ws { s' with opened := n } :=
  ⟨h.ahead, h.stop, rfl, h.clear⟩

end Before

end Cursor

end RecordQuery
