import RecordQuery.Proofs.Filter.Stopping
import RecordQuery.Proofs.Filter.Viability
/-!
# What errors blame

An error that names a token blames the first one that no filter goes on with: the
tokens before it are the beginning of some text that is read, and with it they are not
(`parseFilter_blames_first`). All the kinds that the error lists could stand there, but
they need not be all that could: behind an operand in brackets `and` and `or` are left
out, behind an equality and a number that is not finite the other literals are, and at
the beginning of a text its end is (`canFollow_iff_listed`).
-/

namespace RecordQuery

/-! ## The places of tokens -/

theorem utf8Length_append (cs ds : List Char) :
    utf8Length (cs ++ ds) = utf8Length cs + utf8Length ds := by
  induction cs with
  | nil => exact (Nat.zero_add _).symm
  | cons c cs ih => rw [List.cons_append, utf8Length, utf8Length, ih, Nat.add_assoc]

/-- Whether a token is read where its position says, or is the end and has the length
of the text for its position. -/
def Token.StandsIn (t : Token) (text : List Char) : Prop :=
  ∃ before rest, text = before ++ rest ∧ t.position = utf8Length before ∧
    match rest with
    | [] => t.kind = .finish
    | c :: cs => ∃ n, Lexeme.read c cs = .token t.kind t.text.toList n

namespace Scanner

variable {s s' : Scanner} {text : List Char} {t : Token}

/-- Whether a place is one in a text. -/
def In (s : Scanner) (text : List Char) : Prop :=
  ∃ before, text = before ++ s.rest ∧ s.position = utf8Length before

theorem In.drop (h : s.In text) (n : Nat) : (s.drop n).In text := by
  obtain ⟨before, htext, hposition⟩ := h
  refine ⟨before ++ s.rest.take n, ?_, ?_⟩
  · rw [List.append_assoc, Scanner.drop, List.take_append_drop, htext]
  · rw [utf8Length_append, Scanner.drop, hposition]

theorem In.skipBlanks (h : s.In text) : s.skipBlanks.In text := by
  obtain ⟨before, htext, hposition⟩ := h
  refine ⟨before ++ s.rest.takeWhile isBlank, ?_, ?_⟩
  · rw [List.append_assoc, Scanner.skipBlanks, List.takeWhile_append_dropWhile, htext]
  · rw [utf8Length_append, Scanner.skipBlanks, hposition]

/-- The next token of a text stands in it, and the place behind it is one, too. -/
theorem In.next (hs : s.In text) (h : s.next = (.ok t, s')) : t.StandsIn text ∧ s'.In text := by
  have hskip := hs.skipBlanks
  obtain ⟨before, htext, hposition⟩ := hskip
  simp only [Scanner.next] at h
  split at h
  · next hrest =>
    cases h
    exact ⟨⟨before, [], hrest ▸ htext, hposition, rfl⟩, hs.skipBlanks⟩
  · next c cs hrest =>
    split at h
    · next kind chars n hread =>
      cases h
      have hchars : Lexeme.read c cs = .token kind (String.ofList chars).toList n := by
        rw [String.toList_ofList, hread]
      exact ⟨⟨before, c :: cs, hrest ▸ htext, hposition, n, hchars⟩, hs.skipBlanks.drop n⟩
    · cases h

/-- **Every token stands where its position says**, and the end behind the last
character. -/
theorem In.standsIn (hs : s.In text) (h : t ∈ s.tokens.withEnd) : t.StandsIn text := by
  induction s using tokens.induct with
  | case1 s e s' hn =>
    rw [tokens_of_error hn] at h
    exact absurd h List.not_mem_nil
  | case2 s u s' hn hu =>
    rw [tokens_of_finish hn hu] at h
    obtain rfl := List.mem_singleton.1 h
    obtain ⟨before, rest, htext, hposition, hrest⟩ := (hs.next hn).1
    refine ⟨before, rest, htext, hposition, ?_⟩
    cases rest with
    | nil => rfl
    | cons c cs =>
      obtain ⟨n, hread⟩ := hrest
      exact absurd hu (Lexeme.complete_of_read hread).kind_ne
  | case3 s u s' hn hu _ ih =>
    rw [tokens_of_token hn hu] at h
    obtain ⟨hstands, hs'⟩ := hs.next hn
    rcases List.mem_cons.1 h with rfl | h
    · exact hstands
    · exact ih hs' h

end Scanner

theorem standsIn_of_mem {text : String} {t : Token} (h : t ∈ (tokensOf text).withEnd) :
    t.StandsIn text.toList := by
  have hs : (Scanner.ofString text).In text.toList := ⟨[], rfl, rfl⟩
  exact hs.standsIn h

/-- A text is blank if its end comes first. -/
theorem allBlank_of_withEnd {text : String} {t : Token} {after : List Token}
    (h : (tokensOf text).withEnd = t :: after) (ht : t.kind = .finish) : allBlank text = true := by
  rw [tokensOf] at h
  rcases hnext : (Scanner.ofString text).next with ⟨e | u, s'⟩
  · rw [Scanner.tokens_of_error hnext] at h
    cases h
  · have hu : u.kind = .finish := by
      by_contra hu
      rw [Scanner.tokens_of_token hnext hu] at h
      exact hu ((List.cons.inj h).1 ▸ ht)
    rcases Scanner.of_next hnext with ⟨hrest, -⟩ | ⟨c, cs, n, -, -, hread⟩
    · exact List.all_eq_true.2 (List.dropWhile_eq_nil_iff.1 hrest)
    · exact absurd hu (Lexeme.complete_of_read hread).kind_ne

/-! ## The token that is blamed -/

open Expectation

/-- Where reading a text stops: behind tokens that lead to `e` stands one that there is
no step for. -/
structure StuckAt (text : String) (before : List Token) (t : Token) (e : Expectation) : Prop where
  withEnd : ∃ after, (tokensOf text).withEnd = before ++ t :: after
  spells : ∃ cs, Spells cs (before.map Token.word)
  leads : Leads start (before.map Token.word) e
  stuck : ∀ e', ¬ e.Step t.word e'

variable {limit : Nat} {text : String} {token : String} {position : Nat}
  {expected : List TokenKind} {symbol : Stray} {before : List Token} {t : Token}
  {e : Expectation} {us : List Word} {w : Word} {k : TokenKind}

/-- The tokens around a place in a text. -/
theorem Cursor.Before.withEnd {m : Cursor} (h : (tokensOf text).cursor.Before us m) :
    ∃ before after, before.map Token.word = us ∧
      (tokensOf text).withEnd = before ++ m.current :: after ∧
      ∃ cs, Spells cs (before.map Token.word) := by
  obtain ⟨before, rfl, hts⟩ := h.ahead
  have htokens : (tokensOf text).tokens = before ++ m.ahead := hts
  have hspells : ∃ cs, Spells cs (before.map Token.word) := by
    refine exists_spells_of_mem (s := Scanner.ofString text) fun t ht => ?_
    change t ∈ (tokensOf text).tokens
    rw [htokens]
    exact List.mem_append_left _ ht
  have hend : ∃ after, (tokensOf text).withEnd = before ++ m.current :: after := by
    rw [Tokens.withEnd, htokens]
    cases hm : m.ahead with
    | cons t ts =>
      rw [Cursor.current, hm, List.append_assoc, List.cons_append]
      exact ⟨_, rfl⟩
    | nil =>
      -- the text ends well there
      obtain ⟨p, hp⟩ := h.clear hm
      have hstop : (tokensOf text).stop = .ok p := h.stop.symm.trans hp
      rw [Cursor.current, hm, hp, hstop, List.append_nil]
      exact ⟨[], rfl⟩
  obtain ⟨after, hend⟩ := hend
  exact ⟨before, after, rfl, hend, hspells⟩

/-- An error names the token that reading stops at, and the kinds that go with it. -/
theorem exists_stuckAt
    (h : parseFilter limit text = .error (.unexpected token position expected)) :
    ∃ before t e, StuckAt text before t e ∧ t.describe = token ∧ t.position = position ∧
      e.listed t.word = expected := by
  cases stopsAt_of_parseFilter h with
  | unexpected hb hleads hstuck =>
    obtain ⟨before, after, rfl, hend, hspells⟩ := hb.withEnd
    exact ⟨before, _, _, ⟨⟨after, hend⟩, hspells, hleads, hstuck⟩, rfl, rfl, rfl⟩

/-- No text that is read begins with the tokens up to that one. -/
theorem StuckAt.not_viable (h : StuckAt text before t e) (hblank : ¬ allBlank text = true) :
    ¬ Viable ((before ++ [t]).map Token.word) := by
  intro hv
  rw [List.map_append] at hv
  rcases step_of_viable h.leads hv with ⟨hnil, hword⟩ | ⟨e', hstep⟩
  · obtain ⟨after, hend⟩ := h.withEnd
    rw [List.map_eq_nil_iff.1 hnil] at hend
    exact hblank (allBlank_of_withEnd hend (congrArg Prod.fst hword))
  · exact h.stuck e' hstep

/-! ## The kinds that are left out -/

/-- Whether the last of the words is `==` or `!=`. -/
def EndsInEquality (us : List Word) : Prop :=
  ∃ vs k t, us = vs ++ [(k, t)] ∧ (k = TokenKind.eq ∨ k = .ne)

/-- Whether an error behind some words that lists these kinds leaves out another one
that could stand there. -/
def LeavesOut (us : List Word) (expected : List TokenKind) (k : TokenKind) : Prop :=
  (expected = [.rightParen] ∧ (k = .and ∨ k = .or)) ∨
    (expected = [.number] ∧ EndsInEquality us ∧ (k = .string ∨ k = .null)) ∨
    (us = [] ∧ k = .finish)

/-- A literal is due behind its operator. -/
theorem last_of_leads {n : Nat} {hk : k.isComparison = true}
    (h : Leads start us ⟨.literal k hk, n⟩) : ∃ vs t, us = vs ++ [(k, t)] := by
  rcases us.eq_nil_or_concat with rfl | ⟨vs, w, rfl⟩
  · cases h
  · rw [List.concat_eq_append] at h ⊢
    obtain ⟨e', -, hlast⟩ := h.split
    cases hlast with
    | cons hstep hnil =>
      cases hnil
      cases hstep with
      | comparison t hk => exact ⟨vs, t, rfl⟩

theorem endsInEquality_iff {vs : List Word} {t : String} :
    EndsInEquality (vs ++ [(k, t)]) ↔ k = .eq ∨ k = .ne := by
  constructor
  · rintro ⟨vs', k', t', heq, hk'⟩
    obtain ⟨-, hlast⟩ := List.append_inj' heq rfl
    cases hlast
    exact hk'
  · exact fun hk => ⟨vs, k, t, rfl, hk⟩

/-- **The kinds that are due are those that the parser lists, and those that it leaves
out** inside brackets and for a number that is not finite. -/
theorem mem_due_iff (h : Leads start us e) :
    k ∈ e.due ↔ k ∈ e.listed w ∨
      (e.listed w = [.rightParen] ∧ (k = .and ∨ k = .or)) ∨
      (e.listed w = [.number] ∧ EndsInEquality us ∧ (k = .string ∨ k = .null)) := by
  obtain ⟨phase, n⟩ := e
  cases phase with
  | operand => simp [listed, due]
  | comparison => simp [listed, due, TokenKind.comparisons]
  | literal operator hk =>
    obtain ⟨vs, t, rfl⟩ := last_of_leads h
    rw [endsInEquality_iff, listed, due]
    by_cases heq : operator = .eq ∨ operator = .ne
    · by_cases hw : w.1 = .number
      · -- the other two literals of an equality are left out
        have hnumber : [TokenKind.number] ≠ [.rightParen] := by decide
        rw [if_pos heq, if_pos ⟨heq, hw⟩]
        simp only [List.mem_cons, List.not_mem_nil, or_false, true_and, heq, hnumber, false_and,
          false_or]
        tauto
      · simp [heq, hw]
    · by_cases hlike : operator = .like ∨ operator = .unlike
      · simp [heq, hlike]
      · simp [heq, hlike]
  | connective =>
    cases n with
    | zero => simp [listed, due]
    | succ n =>
      -- the closing bracket alone is listed
      have hbracket : [TokenKind.rightParen] ≠ [.number] := by decide
      simp only [listed, due, List.mem_cons, List.not_mem_nil, or_false, true_and, hbracket,
        false_and]
      tauto
  | done => simp [listed, due]

/-- What can stand where reading stops. -/
theorem StuckAt.canFollow_iff (h : StuckAt text before t e) :
    CanFollow (before.map Token.word) k ↔
      k ∈ e.listed t.word ∨ LeavesOut (before.map Token.word) (e.listed t.word) k := by
  obtain ⟨cs, hspells⟩ := h.spells
  rw [RecordQuery.canFollow_iff hspells h.leads, mem_due_iff (w := t.word) h.leads, LeavesOut]
  tauto

/-! ## Errors -/

/-- A term with no connective behind it is a whole filter. -/
theorem Cursor.read_of_term {s : Cursor} {p : Parsed} (hs : s.kind ≠ .not)
    (h : s.read limit .term = .ok p) (hand : p.cursor.kind ≠ .and) (hor : p.cursor.kind ≠ .or) :
    s.read limit (.chain .or) = .ok p := by
  have hchain : s.read limit (.chain .and) = .ok p := by
    rw [read_chain, Connective.operand, read_negation hs, h]
    exact Parsed.extended_of_ne hand
  rw [read_chain, Connective.operand, hchain]
  exact Parsed.extended_of_ne hor

/-- An error in the first term is the error of the whole filter. -/
theorem Cursor.read_of_term_error {s : Cursor} {x : ParseError} (hs : s.kind ≠ .not)
    (h : s.read limit .term = .error x) : s.read limit (.chain .or) = .error x := by
  rw [read_chain, Connective.operand, read_chain, Connective.operand, read_negation hs, h]
  rfl

/-- A bracket that is not closed. -/
def openGroup : String := "(a == null"

theorem tokensOf_openGroup : tokensOf openGroup =
    ⟨[⟨.leftParen, "(", 0⟩, ⟨.field, "a", 1⟩, ⟨.eq, "==", 3⟩, ⟨.null, "null", 6⟩], .ok 10⟩ := by
  have hbracket : (Scanner.ofString openGroup).next =
    (.ok ⟨.leftParen, "(", 0⟩, ⟨"a == null".toList, 1⟩) := rfl
  have hfield : (Scanner.mk "a == null".toList 1).next =
    (.ok ⟨.field, "a", 1⟩, ⟨" == null".toList, 2⟩) := rfl
  have hequals : (Scanner.mk " == null".toList 2).next =
    (.ok ⟨.eq, "==", 3⟩, ⟨" null".toList, 5⟩) := rfl
  have hnull : (Scanner.mk " null".toList 5).next = (.ok ⟨.null, "null", 6⟩, ⟨[], 10⟩) := rfl
  have hend : (Scanner.mk [] 10).next = (.ok ⟨.finish, "", 10⟩, ⟨[], 10⟩) := rfl
  rw [tokensOf, Scanner.tokens_of_token hbracket (by decide),
    Scanner.tokens_of_token hfield (by decide), Scanner.tokens_of_token hequals (by decide),
    Scanner.tokens_of_token hnull (by decide), Scanner.tokens_of_finish hend rfl]

theorem parseFilter_openGroup :
    parseFilter defaultDepth openGroup = .error (.unexpected "end of input" 10 [.rightParen]) := by
  have hinside : Cursor.read defaultDepth .term
      ⟨[⟨.field, "a", 1⟩, ⟨.eq, "==", 3⟩, ⟨.null, "null", 6⟩], .ok 10, 1⟩ =
        .ok ⟨.condition ⟨["a"], .isNull, false⟩, 1, ⟨[], .ok 10, 1⟩⟩ := by
    rw [Cursor.read_condition (by decide)]
    rfl
  have hgroup : Cursor.read defaultDepth .term (tokensOf openGroup).cursor =
      .error (.unexpected "end of input" 10 [.rightParen]) := by
    rw [tokensOf_openGroup, Cursor.read_group (by decide)]
    have hfilter := Cursor.read_of_term (by decide) hinside (by decide) (by decide)
    exact bind_eq_error.2 (.inr ⟨_, rfl, bind_eq_error.2 (.inr ⟨_, hfilter, rfl⟩)⟩)
  have hnot : (tokensOf openGroup).cursor.kind ≠ .not := by
    rw [tokensOf_openGroup]
    decide
  have hstart : Cursor.ofTokens (tokensOf openGroup) = .ok (tokensOf openGroup).cursor := by
    rw [tokensOf_openGroup]
    rfl
  rw [parseFilter_eq _ _ (by decide), hstart]
  exact bind_eq_error.2 (.inr ⟨_, rfl, bind_eq_error.2
    (.inl (Cursor.read_of_term_error hnot hgroup))⟩)

/-- **Errors blame the first token that no filter goes on with.** It stands where the
error says, the tokens before it are the beginning of a text that is read, and with it
they are not, but with a token of each kind that the error lists. A stray symbol is
blamed only if all tokens before it are the beginning of a text that is read. -/
theorem parseFilter_blames_first (limit : Nat) (text : String) :
    (∀ token position expected,
      parseFilter limit text = .error (.unexpected token position expected) →
      ∃ before t after, (tokensOf text).withEnd = before ++ t :: after ∧
        t.describe = token ∧ t.position = position ∧ t.StandsIn text.toList ∧
        Viable (before.map Token.word) ∧ ¬ Viable ((before ++ [t]).map Token.word) ∧
        ∀ k ∈ expected, CanFollow (before.map Token.word) k) ∧
    ∀ symbol, parseFilter limit text = .error (.stray symbol) →
      (tokensOf text).stop = .error symbol ∧ Viable ((tokensOf text).tokens.map Token.word) := by
  constructor
  · intro token position expected h
    obtain ⟨before, t, e, hstuck, hdescribe, hposition, rfl⟩ := exists_stuckAt h
    obtain ⟨after, hend⟩ := hstuck.withEnd
    obtain ⟨cs, hspells⟩ := hstuck.spells
    have hmem : t ∈ (tokensOf text).withEnd := by
      rw [hend]
      exact List.mem_append_right _ List.mem_cons_self
    exact ⟨before, t, after, hend, hdescribe, hposition, standsIn_of_mem hmem,
      viable_of_leads hspells hstuck.leads, hstuck.not_viable (not_allBlank_of_error h),
      fun k hk => hstuck.canFollow_iff.2 (.inl hk)⟩
  · intro symbol h
    cases stopsAt_of_parseFilter h with
    | stray hstop hleads =>
      obtain ⟨cs, hspells⟩ := exists_spells_of_mem (s := Scanner.ofString text) fun t ht => ht
      exact ⟨hstop, viable_of_leads hspells hleads⟩

/-- A field with a symbol behind it that belongs to no token. -/
def strayText : String := "a $"

/-- The open bracket is refused at the end of the text, where it could be closed, and the
other text at the symbol. -/
theorem openGroup_blames_first :
    (parseFilter defaultDepth openGroup =
        .error (.unexpected "end of input" 10 [.rightParen]) ∧
      ∃ before t after, (tokensOf openGroup).withEnd = before ++ t :: after ∧ t.position = 10 ∧
        Viable (before.map Token.word) ∧ ¬ Viable ((before ++ [t]).map Token.word) ∧
        CanFollow (before.map Token.word) .rightParen) ∧
    parseFilter defaultDepth strayText = .error (.stray ⟨'$', 2⟩) ∧
      Viable ((tokensOf strayText).tokens.map Token.word) := by
  have htokens : tokensOf strayText = ⟨[⟨.field, "a", 0⟩], .error ⟨'$', 2⟩⟩ := by
    have hfield : (Scanner.ofString strayText).next =
      (.ok ⟨.field, "a", 0⟩, ⟨" $".toList, 1⟩) := rfl
    have hsymbol : (Scanner.mk " $".toList 1).next = (.error ⟨'$', 2⟩, ⟨['$'], 2⟩) := rfl
    rw [tokensOf, Scanner.tokens_of_token hfield (by decide), Scanner.tokens_of_error hsymbol]
  have hstray : parseFilter defaultDepth strayText = .error (.stray ⟨'$', 2⟩) := by
    have hterm : Cursor.read defaultDepth .term (tokensOf strayText).cursor =
        .error (.stray ⟨'$', 2⟩) := by
      rw [htokens, Cursor.read_condition (by decide)]
      rfl
    rw [parseFilter_eq _ _ (by decide)]
    rw [htokens] at hterm ⊢
    exact bind_eq_error.2 (.inr ⟨_, rfl, bind_eq_error.2
      (.inl (Cursor.read_of_term_error (by decide) hterm))⟩)
  obtain ⟨before, t, after, hend, -, hposition, -, hviable, hnot, hlisted⟩ :=
    (parseFilter_blames_first defaultDepth openGroup).1 _ _ _ parseFilter_openGroup
  obtain ⟨-, hstrayViable⟩ := (parseFilter_blames_first defaultDepth strayText).2 _ hstray
  exact ⟨⟨parseFilter_openGroup, before, t, after, hend, hposition, hviable, hnot,
    hlisted _ List.mem_cons_self⟩, hstray, hstrayViable⟩

/-- **What can stand where an error is, is what the error lists and what it leaves
out.** So the list is complete behind some words, unless it has only the closing
bracket, or only a number behind an equality. -/
theorem canFollow_iff_listed
    (h : parseFilter limit text = .error (.unexpected token position expected)) :
    ∃ before t after, (tokensOf text).withEnd = before ++ t :: after ∧
      t.describe = token ∧ t.position = position ∧
      (∀ k, CanFollow (before.map Token.word) k ↔
        k ∈ expected ∨ LeavesOut (before.map Token.word) expected k) ∧
      ((∀ k, CanFollow (before.map Token.word) k → k ∈ expected) ↔
        before ≠ [] ∧ expected ≠ [.rightParen] ∧
          ¬ (expected = [.number] ∧ EndsInEquality (before.map Token.word))) := by
  obtain ⟨before, t, e, hstuck, hdescribe, hposition, rfl⟩ := exists_stuckAt h
  obtain ⟨after, hend⟩ := hstuck.withEnd
  have hfollow (k : TokenKind) := hstuck.canFollow_iff (k := k)
  refine ⟨before, t, after, hend, hdescribe, hposition, hfollow, ?_⟩
  constructor
  · intro hcomplete
    have hleft {k : TokenKind} (hk : LeavesOut (before.map Token.word) (e.listed t.word) k) :
        k ∈ e.listed t.word := hcomplete k ((hfollow k).2 (.inr hk))
    refine ⟨?_, fun hbracket => ?_, fun ⟨hnumber, hends⟩ => ?_⟩
    · rintro rfl
      have hstart : e = start := hstuck.leads.unique (.nil start)
      have hfinish : .finish ∈ e.listed t.word := hleft (.inr (.inr ⟨rfl, rfl⟩))
      rw [hstart] at hfinish
      exact absurd hfinish (by simp [listed, due, start])
    · have hand : .and ∈ e.listed t.word := hleft (.inl ⟨hbracket, .inl rfl⟩)
      rw [hbracket] at hand
      exact absurd hand (by decide)
    · have hstring : .string ∈ e.listed t.word := hleft (.inr (.inl ⟨hnumber, hends, .inl rfl⟩))
      rw [hnumber] at hstring
      exact absurd hstring (by decide)
  · rintro ⟨hne, hbracket, hequality⟩ k hk
    rcases (hfollow k).1 hk with hlisted | ⟨h, -⟩ | ⟨h, hends, -⟩ | ⟨h, -⟩
    · exact hlisted
    · exact absurd h hbracket
    · exact absurd ⟨h, hends⟩ hequality
    · exact absurd (List.map_eq_nil_iff.1 h) hne

/-- What can stand at the end of an open bracket. -/
theorem openGroup_followers :
    parseFilter defaultDepth openGroup =
        .error (.unexpected "end of input" 10 [.rightParen]) ∧
      ∃ before t after, (tokensOf openGroup).withEnd = before ++ t :: after ∧ t.position = 10 ∧
        before ≠ [] ∧ ∀ k, CanFollow (before.map Token.word) k ↔
          k = .rightParen ∨ k = .and ∨ k = .or := by
  obtain ⟨before, t, after, hend, -, hposition, hfollow, -⟩ :=
    canFollow_iff_listed parseFilter_openGroup
  have hne : before ≠ [] := by
    rintro rfl
    rw [tokensOf_openGroup] at hend
    have hfirst : Token.mk .leftParen "(" 0 = t := (List.cons.inj hend).1
    rw [← hfirst] at hposition
    cases hposition
  refine ⟨parseFilter_openGroup, before, t, after, hend, hposition, hne, fun k => ?_⟩
  rw [hfollow k, LeavesOut]
  simp [hne]

/-- Two operands in brackets. -/
def closedGroup : Filter :=
  (Filter.condition ⟨["a"], .isNull, false⟩).and (.condition ⟨["a"], .isNull, false⟩)

/-- **The list of an error need not be complete.** At the end of the open bracket only the
closing one is listed, while a text with `and` there is read. -/
theorem openGroup_leaves_out_and :
    parseFilter defaultDepth openGroup =
        .error (.unexpected "end of input" 10 [.rightParen]) ∧
      .and ∉ [TokenKind.rightParen] ∧
      parseFilter defaultDepth "(a == null and a == null)" = .ok (some closedGroup) ∧
      ∃ us t ws, wordsOf openGroup = us ++ [(.finish, "")] ∧
        wordsOf "(a == null and a == null)" = us ++ (.and, t) :: ws := by
  have htext : "(a == null and a == null)" = closedGroup.text := by decide
  have hwritable : ∀ c ∈ closedGroup.conditions, c.Writable := by decide
  have hread : parseFilter defaultDepth closedGroup.text = .ok (some closedGroup) :=
    (Filter.parseFilter_text defaultDepth hwritable).1 ⟨by decide, by decide⟩
  have hwords := wordsOf_of_spells (Filter.spells_text hwritable)
  rw [String.ofList_toList] at hwords
  rw [htext]
  refine ⟨parseFilter_openGroup, by decide, hread, ?_⟩
  rw [hwords, wordsOf, tokensOf_openGroup]
  exact ⟨[(.leftParen, "("), (.field, "a"), (.eq, "=="), (.null, "null")], "and", _, rfl, rfl⟩

end RecordQuery
