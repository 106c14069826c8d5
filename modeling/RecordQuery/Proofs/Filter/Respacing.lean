import RecordQuery.Proofs.Filter.Tiling
import RecordQuery.Proofs.Text.Words
/-!
# Texts that differ in their blanks

The lexemes of a text can be written again with other blanks between them: where the text
has no stray symbol, and there is at least one blank in each place, the words are the same
(`Spells.of_apart`). The parser reads nothing of a token but its word, and its position
only to report it. So it gives the same filter, or the same error up to its position
(`parseFilter_respaced`).
-/

namespace RecordQuery

/-! ## Lexemes with blanks between them -/

/-- The characters that the tokens of a text are written with in it. -/
def LexemesOf (text : String) (ls : List (List Char)) : Prop :=
  ∃ pieces rest, pieces.map Piece.token = (tokensOf text).tokens ∧
    text.toList = charsOf pieces ++ rest ∧ Tiling [] pieces rest ∧ pieces.map Piece.lexeme = ls

theorem exists_lexemesOf (text : String) : ∃ ls, LexemesOf text ls := by
  obtain ⟨pieces, rest, htokens, htext, htiling, -⟩ := exists_tiling_tokensOf text
  exact ⟨_, pieces, rest, htokens, htext, htiling, rfl⟩

theorem Tiling.written {before rest : List Char} {pieces : List Piece}
    (h : Tiling before pieces rest) :
    List.Forall₂ Written (pieces.map fun p => p.token.word) (pieces.map Piece.lexeme) := by
  induction h with
  | nil => exact .nil
  | cons hp _ ih => exact .cons hp.written ih

theorem LexemesOf.written {text : String} {ls : List (List Char)} (h : LexemesOf text ls) :
    List.Forall₂ Written ((tokensOf text).tokens.map Token.word) ls := by
  obtain ⟨pieces, rest, htokens, -, htiling, rfl⟩ := h
  rw [← htokens, List.map_map]
  exact htiling.written

namespace Spells

variable {a b bs cs : List Char} {us ws : List Word}

/-- Texts with blanks between them are read one after the other. -/
theorem apart (hne : bs ≠ []) (hbs : ∀ c ∈ bs, isBlank c = true) (ha : Spells a us)
    (hb : Spells b ws) : Spells (a ++ (bs ++ b)) (us ++ ws) := by
  obtain ⟨c, rest, rfl⟩ := List.exists_cons_of_ne_nil hne
  intro more p hm
  have hends : EndsWord (c :: rest ++ b ++ more) := by
    rintro d ⟨⟩
    exact .inl (hbs c List.mem_cons_self)
  obtain ⟨q, hq⟩ := ha _ p hends
  obtain ⟨r, hr⟩ := hb.blanks hbs more q hm
  refine ⟨r, ?_⟩
  rw [List.append_assoc]
  exact hq.append hr

theorem of_apart {ls : List (List Char)} (h : List.Forall₂ Written ws ls) (hcs : Apart ls cs) :
    Spells cs ws := by
  induction hcs generalizing ws with
  | nil =>
    cases h
    exact .nil
  | single l =>
    obtain ⟨w, _, hw, hnil, rfl⟩ := List.forall₂_cons_right_iff.1 h
    cases hnil
    exact hw.spells
  | cons hne hgap _ ih =>
    obtain ⟨w, ws, hw, hws, rfl⟩ := List.forall₂_cons_right_iff.1 h
    exact apart hne hgap hw.spells (ih hws)

/-- **Lexemes with blanks between them spell their words.** -/
theorem of_spaced {ls : List (List Char)} (h : List.Forall₂ Written ws ls) (hcs : Spaced ls cs) :
    Spells cs ws := by
  obtain ⟨before, body, behind, rfl, hbody, hbefore, hbehind⟩ := hcs
  have hspells := of_apart h hbody
  refine Spells.blanks hbefore ?_
  by_cases hnil : behind = []
  · rwa [hnil, List.append_nil]
  · have hall := apart hnil hbehind hspells .nil
    rwa [List.append_nil, List.append_nil] at hall

end Spells

/-! ## Results that correspond -/

/-- An error without its position. -/
def ParseError.unplaced : ParseError → ParseError
  | stray s => stray ⟨s.symbol, 0⟩
  | unexpected token _ expected => unexpected token 0 expected
  | tooDeep limit _ => tooDeep limit 0

/-- Results that are related, or errors that are equal up to their positions. -/
inductive Corresponds {α β : Type} (R : α → β → Prop) :
    Except ParseError α → Except ParseError β → Prop
  | ok {a : α} {b : β} (h : R a b) : Corresponds R (.ok a) (.ok b)
  | error {e e' : ParseError} (h : e.unplaced = e'.unplaced) : Corresponds R (.error e) (.error e')

namespace Corresponds

variable {α β γ δ : Type} {R : α → β → Prop} {S : γ → δ → Prop} {r : Except ParseError α}
  {r' : Except ParseError β} {k : α → Except ParseError γ} {k' : β → Except ParseError δ}

/-- One step after another. -/
theorem bind (h : Corresponds R r r')
    (hk : ∀ a b, r = .ok a → R a b → Corresponds S (k a) (k' b)) :
    Corresponds S (r >>= k) (r' >>= k') := by
  cases h with
  | ok hab => exact hk _ _ rfl hab
  | error he => exact .error he

theorem mapError_eq {r r' : Except ParseError α} (h : Corresponds Eq r r') :
    r.mapError ParseError.unplaced = r'.mapError ParseError.unplaced := by
  cases h with
  | ok hab => rw [hab]
  | error he => exact congrArg Except.error he

end Corresponds

/-- Messages name the words of tokens. -/
theorem Token.describe_congr {t t' : Token} (h : t.word = t'.word) : t.describe = t'.describe := by
  obtain ⟨kind, text, position⟩ := t
  obtain ⟨kind', text', position'⟩ := t'
  cases h
  rfl

/-! ## Places with the same words ahead -/

/-- Two places with the same words ahead, up to the ends of two texts, and as much open. -/
structure Cursor.Alike (s s' : Cursor) : Prop where
  words : s.ahead.map Token.word = s'.ahead.map Token.word
  stop : ∃ p, s.stop = .ok p
  stop' : ∃ p, s'.stop = .ok p
  opened : s.opened = s'.opened

/-- The same filter, read up to places alike. -/
structure Parsed.Alike (p p' : Parsed) : Prop where
  tree : p.tree = p'.tree
  depth : p.depth = p'.depth
  cursor : p.cursor.Alike p'.cursor

namespace Cursor

variable {s s' : Cursor} {limit : Nat}

namespace Alike

theorem current (h : s.Alike s') : s.current.word = s'.current.word := by
  obtain ⟨p, hp⟩ := h.stop
  obtain ⟨p', hp'⟩ := h.stop'
  have hwords := h.words
  rw [Cursor.current, Cursor.current, hp, hp']
  cases hs : s.ahead with
  | nil =>
    rw [hs, List.map_nil, eq_comm, List.map_eq_nil_iff] at hwords
    rw [hwords]
    rfl
  | cons t ts =>
    rw [hs, List.map_cons, eq_comm, List.map_eq_cons_iff] at hwords
    obtain ⟨t', ts', hs', hword, -⟩ := hwords
    rw [hs']
    exact hword.symm

theorem kind (h : s.Alike s') : s.kind = s'.kind := congrArg Prod.fst h.current

theorem text (h : s.Alike s') : s.current.text = s'.current.text := congrArg Prod.snd h.current

theorem advance (h : s.Alike s') : Corresponds Alike s.advance s'.advance := by
  have htail {s : Cursor} (hs : ∃ p, s.stop = .ok p) :
      s.advance = .ok { s with ahead := s.ahead.tail } := by
    obtain ⟨p, hp⟩ := hs
    rw [Cursor.advance, moveTo]
    intro symbol _ hstop
    cases hp.symm.trans hstop
  rw [htail h.stop, htail h.stop']
  refine .ok ⟨?_, h.stop, h.stop', h.opened⟩
  show s.ahead.tail.map Token.word = s'.ahead.tail.map Token.word
  rw [List.map_tail, List.map_tail, h.words]

theorem unexpected (h : s.Alike s') (expected : List TokenKind) :
    (s.unexpected expected).unplaced = (s'.unexpected expected).unplaced := by
  rw [Cursor.unexpected, Cursor.unexpected, Token.describe_congr h.current]
  rfl

theorem ascend (h : s.Alike s') : s.ascend.Alike s'.ascend :=
  ⟨h.words, h.stop, h.stop', congrArg (· - 1) h.opened⟩

theorem enter (h : s.Alike s') :
    Corresponds Alike (s.descend limit >>= Cursor.advance)
      (s'.descend limit >>= Cursor.advance) := by
  rw [descend, descend, h.opened]
  by_cases hopen : limit < s'.opened + 1
  · rw [if_pos hopen, if_pos hopen]
    exact .error rfl
  · rw [if_neg hopen, if_neg hopen]
    exact advance ⟨h.words, h.stop, h.stop', rfl⟩

/-- A literal makes the same test in both places, or is refused in the same way. -/
theorem test (h : s.Alike s') (operator : TokenKind) :
    Corresponds Eq (s.test operator) (s'.test operator) := by
  have hkind : s.current.kind = s'.current.kind := h.kind
  rw [Cursor.test, Cursor.test, hkind, h.text]
  have hnumber (negated : Bool) (expected : List TokenKind) :
      Corresponds Eq
        (if (literalValue s'.current.text.toList).isFinite then
          Except.ok
            (Test.compares operator.comparison (literalValue s'.current.text.toList), negated)
        else .error (s.unexpected expected))
        (if (literalValue s'.current.text.toList).isFinite then
          Except.ok
            (Test.compares operator.comparison (literalValue s'.current.text.toList), negated)
        else .error (s'.unexpected expected)) := by
    split
    · exact .ok rfl
    · exact .error (h.unexpected expected)
  by_cases heq : operator = .eq ∨ operator = .ne
  · rw [if_pos heq, if_pos heq]
    cases s'.current.kind with
    | string => exact .ok rfl
    | number => exact hnumber _ _
    | null => exact .ok rfl
    | _ => exact .error (h.unexpected _)
  · rw [if_neg heq, if_neg heq]
    by_cases hlike : operator = .like ∨ operator = .unlike
    · rw [if_pos hlike, if_pos hlike]
      cases s'.current.kind with
      | string => exact .ok rfl
      | _ => exact .error (h.unexpected _)
    · rw [if_neg hlike, if_neg hlike]
      cases s'.current.kind with
      | number => exact hnumber _ _
      | _ => exact .error (h.unexpected _)

theorem condition (h : s.Alike s') : Corresponds Parsed.Alike s.condition s'.condition := by
  rw [Cursor.condition, Cursor.condition, h.text]
  refine h.advance.bind fun m m' _ hm => ?_
  rw [hm.kind]
  by_cases hk : (!m'.kind.isComparison) = true
  · simp only [if_pos hk]
    exact .error (hm.unexpected _)
  · simp only [if_neg hk]
    refine hm.advance.bind fun l l' _ hl => (hl.test _).bind fun test test' _ htest => ?_
    rw [htest]
    exact hl.advance.bind fun q q' _ hq => .ok ⟨rfl, rfl, hq⟩

end Alike

theorem corresponds_joined {p p' q q' : Parsed} (c : Connective) (hp : p.Alike p')
    (hq : q.Alike q') : Corresponds Parsed.Alike (p.joined c limit q) (p'.joined c limit q') := by
  rw [Parsed.joined_eq, Parsed.joined_eq, hp.tree, hp.depth, hq.tree, hq.depth]
  split
  · exact .error rfl
  · exact .ok ⟨rfl, rfl, hq.cursor⟩

/-- **Every part is read alike in both places.** -/
theorem corresponds_read (limit : Nat) :
    (∀ (c : Connective) (s : Cursor), ∀ s', s.Alike s' →
      Corresponds Parsed.Alike (s.read limit (.chain c)) (s'.read limit (.chain c))) ∧
    (∀ (c : Connective) (p : Parsed), ∀ p', p.Alike p' →
      Corresponds Parsed.Alike (p.extended limit c) (p'.extended limit c)) ∧
    (∀ (c : Connective) (s : Cursor), ∀ s', s.Alike s' →
      Corresponds Parsed.Alike (s.read limit c.operand) (s'.read limit c.operand)) ∧
    (∀ s : Cursor, ∀ s', s.Alike s' →
      Corresponds Parsed.Alike (s.read limit .negation) (s'.read limit .negation)) ∧
    (∀ s : Cursor, ∀ s', s.Alike s' →
      Corresponds Parsed.Alike (s.read limit .term) (s'.read limit .term)) := by
  -- the recursion of the first parser; the second one makes the same choices
  refine chain.mutual_induct _ _ _ _ _ ?chain ?more ?last ?or ?and ?not ?negation ?group ?bad
    ?condition ?other
  case chain =>
    intro c s ihop ihext s' h
    rw [read_chain, read_chain]
    exact (ihop s' h).bind fun first first' hfirst => ihext first (left_of_read hfirst) first'
  case more =>
    intro c p hk ihop ihext p' h
    rw [Parsed.extended_of_eq hk, Parsed.extended_of_eq (h.cursor.kind ▸ hk)]
    refine h.cursor.advance.bind fun m m' hm hmm => ?_
    have hleft : m.left < p.cursor.left := by
      have := left_pos hk c.kind_ne_finish
      rw [left_of_advance hm]
      omega
    refine (ihop m hleft m' hmm).bind fun right right' hright hrr => ?_
    refine (corresponds_joined c h hrr).bind fun both both' hboth => ?_
    have hcursor : both.cursor = right.cursor := of_plain_eq_ok (r := p.join c limit right) hboth
    exact ihext m hleft right (left_of_read hright) both hcursor both'
  case last =>
    intro c p hk p' h
    rw [Parsed.extended_of_ne hk, Parsed.extended_of_ne (h.cursor.kind ▸ hk)]
    exact .ok h
  case or => exact fun s ih => ih
  case and => exact fun s ih => ih
  case not =>
    intro s hk ih s' h
    rw [read_not hk, read_not (h.kind ▸ hk)]
    refine h.enter.bind fun m m' hm hmm => ?_
    refine (ih m (left_of_enter hm (left_pos hk (by decide))).2 m' hmm).bind fun p p' _ hp => ?_
    exact .ok ⟨congrArg Filter.negate hp.tree, hp.depth, hp.cursor.ascend⟩
  case negation =>
    intro s hk ih s' h
    rw [read_negation hk, read_negation (h.kind ▸ hk)]
    exact ih s' h
  case group =>
    intro s hk ih s' h
    rw [read_group hk, read_group (h.kind ▸ hk)]
    refine h.enter.bind fun m m' hm hmm => ?_
    refine (ih m (left_of_enter hm (left_pos hk (by decide))).2 m' hmm).bind fun p p' _ hp => ?_
    rw [hp.cursor.kind]
    split
    · exact hp.cursor.advance.bind fun q q' _ hq => .ok ⟨hp.tree, hp.depth, hq.ascend⟩
    · exact .error (hp.cursor.unexpected _)
  case bad =>
    intro s _ hf e _ s' h
    rw [read_condition hf, read_condition (h.kind ▸ hf)]
    exact h.condition
  case condition =>
    intro s _ hf p _ s' h
    rw [read_condition hf, read_condition (h.kind ▸ hf)]
    exact h.condition
  case other =>
    intro s hl hf s' h
    rw [read_term hl hf, read_term (h.kind ▸ hl) (h.kind ▸ hf)]
    exact .error (h.unexpected _)

end Cursor

/-! ## Whole texts -/

variable {text text' : String} {n n' : Nat}

/-- A text without stray symbols is blank if it has no tokens. -/
theorem allBlank_iff (h : (tokensOf text).stop = .ok n) :
    allBlank text = true ↔ (tokensOf text).tokens = [] := by
  refine ⟨tokensOf_of_allBlank, fun hnil => ?_⟩
  have hend : (tokensOf text).withEnd = [⟨.finish, "", n⟩] := by
    rw [Tokens.withEnd, hnil, h]
    rfl
  exact allBlank_of_withEnd hend rfl

/-- **Texts with the same words are read alike.** -/
theorem corresponds_parseFilter (h : (tokensOf text).stop = .ok n)
    (h' : (tokensOf text').stop = .ok n')
    (hwords : (tokensOf text).tokens.map Token.word = (tokensOf text').tokens.map Token.word)
    (limit : Nat) : Corresponds Eq (parseFilter limit text) (parseFilter limit text') := by
  have hblank : allBlank text = true ↔ allBlank text' = true := by
    rw [allBlank_iff h, allBlank_iff h', ← List.map_eq_nil_iff (f := Token.word), hwords,
      List.map_eq_nil_iff]
  by_cases hb : allBlank text = true
  · rw [parseFilter, parseFilter, if_pos hb, if_pos (hblank.1 hb)]
    exact .ok rfl
  · rw [parseFilter_eq limit text hb, parseFilter_eq limit text' (hblank.not.1 hb)]
    have halike : Cursor.Alike ⟨(tokensOf text).tokens, .ok n, 0⟩
        ⟨(tokensOf text').tokens, .ok n', 0⟩ := ⟨hwords, ⟨n, rfl⟩, ⟨n', rfl⟩, rfl⟩
    rw [Cursor.ofTokens_of_stop h, Cursor.ofTokens_of_stop h']
    refine ((Cursor.corresponds_read limit).1 .or _ _ halike).bind fun p p' _ hp => ?_
    rw [hp.cursor.kind]
    split
    · exact .ok (congrArg some hp.tree)
    · exact .error (hp.cursor.unexpected _)

/-- **Blanks between lexemes do not matter.** However the lexemes of a text without stray
symbols are set apart, they are the same words, and are read as the same filter or refused
with the same error, up to its position. -/
theorem parseFilter_respaced (h : (tokensOf text).stop = .ok n) :
    (∃ ls, LexemesOf text ls) ∧ ∀ ls, LexemesOf text ls → ∀ text', Spaced ls text'.toList →
      (∃ n', (tokensOf text').stop = .ok n') ∧
      (tokensOf text').tokens.map Token.word = (tokensOf text).tokens.map Token.word ∧
      ∀ limit, (parseFilter limit text').mapError ParseError.unplaced =
        (parseFilter limit text).mapError ParseError.unplaced := by
  refine ⟨exists_lexemesOf text, fun ls hls text' hspaced => ?_⟩
  obtain ⟨ts, n', hts, hwords⟩ := (Spells.of_spaced hls.written hspaced).tokensOf
  have hstop : (tokensOf text').stop = .ok n' := by rw [hts]
  have hsame : (tokensOf text').tokens.map Token.word = (tokensOf text).tokens.map Token.word := by
    rw [hts, hwords]
  exact ⟨⟨n', hstop⟩, hsame, fun limit => (corresponds_parseFilter hstop h hsame limit).mapError_eq⟩

/-- A comparison without blanks. -/
def crowdedText : String := "a!=-1"

/-- The same comparison with a tab, a no-break space and a line break in it. -/
def airyText : String := "\ta\u00a0!=\n -1"

/-- The two texts are the same three words, and so the same filter. -/
theorem airyText_respaced :
    (tokensOf crowdedText).stop = .ok 5 ∧
      LexemesOf crowdedText ["a".toList, "!=".toList, "-1".toList] ∧
      Spaced ["a".toList, "!=".toList, "-1".toList] airyText.toList ∧
      (tokensOf airyText).tokens.map Token.word = [(.field, "a"), (.ne, "!="), (.number, "-1")] ∧
      (parseFilter 1 airyText).mapError ParseError.unplaced =
        (parseFilter 1 crowdedText).mapError ParseError.unplaced := by
  have htokens : tokensOf crowdedText =
      ⟨[⟨.field, "a", 0⟩, ⟨.ne, "!=", 1⟩, ⟨.number, "-1", 3⟩], .ok 5⟩ := by
    have hfield : (Scanner.ofString crowdedText).next =
      (.ok ⟨.field, "a", 0⟩, ⟨"!=-1".toList, 1⟩) := rfl
    have hoperator : (Scanner.mk "!=-1".toList 1).next =
      (.ok ⟨.ne, "!=", 1⟩, ⟨"-1".toList, 3⟩) := rfl
    have hnumber : (Scanner.mk "-1".toList 3).next = (.ok ⟨.number, "-1", 3⟩, ⟨[], 5⟩) := rfl
    have hend : (Scanner.mk [] 5).next = (.ok ⟨.finish, "", 5⟩, ⟨[], 5⟩) := rfl
    rw [tokensOf, Scanner.tokens_of_token hfield (by decide),
      Scanner.tokens_of_token hoperator (by decide), Scanner.tokens_of_token hnumber (by decide),
      Scanner.tokens_of_finish hend rfl]
  have hstop : (tokensOf crowdedText).stop = .ok 5 := by rw [htokens]
  obtain ⟨⟨ls, hls⟩, hall⟩ := parseFilter_respaced hstop
  have hlexemes : ls = ["a".toList, "!=".toList, "-1".toList] := by
    have hwritten := hls.written
    rw [htokens] at hwritten
    obtain ⟨a, _, ha, hmore, rfl⟩ := List.forall₂_cons_left_iff.1 hwritten
    obtain ⟨b, _, hb, hlast, rfl⟩ := List.forall₂_cons_left_iff.1 hmore
    obtain ⟨c, _, hc, hnil, rfl⟩ := List.forall₂_cons_left_iff.1 hlast
    rw [List.forall₂_nil_left_iff.1 hnil, ha.eq_text (by decide), hb.eq_text (by decide),
      hc.eq_text (by decide)]
    rfl
  have hspaced : Spaced ["a".toList, "!=".toList, "-1".toList] airyText.toList :=
    ⟨['\t'], _, [], rfl,
      .cons (List.cons_ne_nil '\u00a0' []) (List.forall_mem_singleton.2 rfl)
        (.cons (List.cons_ne_nil '\n' [' ']) (List.all_eq_true.1 rfl) (.single _)),
      List.forall_mem_singleton.2 rfl, List.forall_mem_nil _⟩
  rw [hlexemes] at hls
  obtain ⟨-, hwords, hparse⟩ := hall _ hls airyText hspaced
  refine ⟨hstop, hls, hspaced, ?_, hparse 1⟩
  rw [hwords, htokens]
  rfl

end RecordQuery
