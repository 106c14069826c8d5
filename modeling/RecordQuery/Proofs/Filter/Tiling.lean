import RecordQuery.Proofs.Filter.Blame
import RecordQuery.Proofs.Filter.Lexicon
/-!
# How tokens tile a text

A text is its tokens with blanks between them: each is written at its position, as long as
it can be, and behind the last one there are blanks only or what starts with a stray
symbol (`tokensOf_tile`). The positions are byte offsets at which characters begin, and
they grow from one token to the next. A scanner that is called again and again returns
these tokens one by one, and from the end of the text on nothing but the end.
-/

namespace RecordQuery

/-! ## Pieces -/

/-- A token in its text: the blanks in front of it, and the characters it is written
with. -/
structure Piece where
  gap : List Char
  lexeme : List Char
  token : Token

namespace Piece

/-- What a piece takes up. -/
def chars (p : Piece) : List Char := p.gap ++ p.lexeme

/-- How a piece stands between what comes before it and after it: behind blanks, where the
token says, and nothing that is written there is longer. -/
structure StandsIn (p : Piece) (before after : List Char) : Prop where
  blank : ∀ c ∈ p.gap, isBlank c = true
  position : p.token.position = utf8Length (before ++ p.gap)
  written : Written p.token.word p.lexeme
  longest : ∀ w l, Written w l → l <+: p.lexeme ++ after → l.length ≤ p.lexeme.length

end Piece

/-- The characters of pieces. -/
def charsOf (pieces : List Piece) : List Char := pieces.flatMap Piece.chars

/-- Behind `before` and in front of `rest` the pieces stand one after another. -/
inductive Tiling : List Char → List Piece → List Char → Prop
  | nil (before rest : List Char) : Tiling before [] rest
  | cons {before rest : List Char} {p : Piece} {pieces : List Piece}
      (hp : p.StandsIn before (charsOf pieces ++ rest))
      (h : Tiling (before ++ p.chars) pieces rest) : Tiling before (p :: pieces) rest

theorem charsOf_cons (p : Piece) (pieces : List Piece) :
    charsOf (p :: pieces) = p.chars ++ charsOf pieces := List.flatMap_cons

theorem Written.ne_nil {w : Word} {l : List Char} (h : Written w l) : l ≠ [] := by
  cases h with
  | field hs =>
    obtain ⟨c, ds, heq, -⟩ := hs.exists_cons
    rw [heq]
    exact List.cons_ne_nil c ds
  | number hds hs =>
    obtain ⟨c, ds, rfl, -⟩ := hds.exists_cons
    rcases hs with hs | hs
    · rw [hs]
      exact List.cons_ne_nil c ds
    · rw [hs]
      exact List.cons_ne_nil _ _
  | string => exact List.cons_ne_nil _ _
  | @fixed k hk =>
    revert hk
    cases k <;> decide

theorem utf8Length_pos {cs : List Char} (h : cs ≠ []) : 0 < utf8Length cs := by
  obtain ⟨c, cs, rfl⟩ := List.exists_cons_of_ne_nil h
  have := c.utf8Size_pos
  rw [utf8Length]
  omega

namespace Tiling

variable {before rest : List Char} {pieces : List Piece}

/-- The tokens stand behind what comes before them, and in front of the end of the text. -/
theorem position_bounds (h : Tiling before pieces rest) : ∀ p ∈ pieces,
    utf8Length before ≤ p.token.position ∧
      p.token.position < utf8Length (before ++ charsOf pieces ++ rest) := by
  induction h with
  | nil before rest => exact fun p hp => absurd hp List.not_mem_nil
  | @cons before rest p pieces hp _ ih =>
    have hpos := utf8Length_pos hp.written.ne_nil
    have hposition := hp.position
    simp only [charsOf_cons, Piece.chars, utf8Length_append] at ih hposition ⊢
    refine List.forall_mem_cons.2 ⟨by omega, fun q hq => ?_⟩
    have hbounds := ih q hq
    omega

/-- **Each token stands behind the ones before it.** -/
theorem pairwise_lt (h : Tiling before pieces rest) :
    (pieces.map fun p => p.token.position).Pairwise (· < ·) := by
  induction h with
  | nil before rest => exact List.Pairwise.nil
  | @cons before rest p pieces hp h ih =>
    refine List.pairwise_cons.2 ⟨fun n hn => ?_, ih⟩
    obtain ⟨q, hq, rfl⟩ := List.mem_map.1 hn
    have hpos := utf8Length_pos hp.written.ne_nil
    have hposition := hp.position
    have hbehind := (h.position_bounds q hq).1
    simp only [Piece.chars, utf8Length_append] at hposition hbehind
    show p.token.position < q.token.position
    omega

end Tiling

/-! ## Scanning -/

namespace Scanner

variable {s s' : Scanner} {t : Token} {before : List Char}

/-- What stands at the place of a scanner if the next token is not the end. -/
theorem exists_piece (hs : s.position = utf8Length before) (h : s.next = (.ok t, s'))
    (ht : t.kind ≠ .finish) :
    ∃ p : Piece, p.token = t ∧ s.rest = p.chars ++ s'.rest ∧ p.StandsIn before s'.rest ∧
      s'.position = utf8Length (before ++ p.chars) := by
  have hgap : s.rest = s.rest.takeWhile isBlank ++ s.rest.dropWhile isBlank :=
    List.takeWhile_append_dropWhile.symm
  simp only [next] at h
  split at h
  · cases h
    exact absurd rfl ht
  · next c cs hrest =>
    split at h
    · next kind text n hread =>
      cases h
      obtain ⟨l, after, hl, hlength, hwritten⟩ := Lexeme.exists_written_of_read hread
      have hafter : s.rest.dropWhile isBlank = l ++ after := hrest.trans hl
      have hdrop : (s.skipBlanks.drop n).rest = after := by
        rw [drop, skipBlanks, hafter, ← hlength, List.drop_left]
      have htake : s.skipBlanks.rest.take n = l := by
        rw [skipBlanks, hafter, ← hlength, List.take_left]
      have hposition : s.skipBlanks.position = utf8Length (before ++ s.rest.takeWhile isBlank) := by
        rw [skipBlanks, hs, utf8Length_append]
      refine ⟨⟨s.rest.takeWhile isBlank, l, _⟩, rfl, ?_, ⟨?_, hposition, hwritten, ?_⟩, ?_⟩
      · rw [hdrop, Piece.chars, List.append_assoc, ← hafter, ← hgap]
      · exact fun d hd => List.mem_takeWhile_imp hd
      · intro w l' hw hl'
        rw [hdrop, ← hl] at hl'
        exact hlength ▸ hw.length_le hl' hread
      · rw [drop, htake, hposition, Piece.chars, ← List.append_assoc, utf8Length_append _ l]
    · cases h

/-- The end of a text has blanks in front of it, and is found again behind it. -/
theorem of_next_finish (h : s.next = (.ok t, s')) (ht : t.kind = .finish) :
    (∀ c ∈ s.rest, isBlank c = true) ∧ t = ⟨.finish, "", s.position + utf8Length s.rest⟩ ∧
      s'.next = (.ok t, s') := by
  rcases of_next h with ⟨hrest, -⟩ | ⟨c, cs, n, -, -, hread⟩
  · have hblank := List.dropWhile_eq_nil_iff.1 hrest
    have htake : s.rest.takeWhile isBlank = s.rest := List.takeWhile_eq_self_iff.2 hblank
    simp only [next, skipBlanks, hrest, htake] at h
    cases h
    exact ⟨hblank, rfl, rfl⟩
  · exact absurd ht (Lexeme.complete_of_read hread).kind_ne

/-- **From any place on, the tokens tile the text**, up to blanks if they end well. -/
theorem exists_tiling (s : Scanner) (hs : s.position = utf8Length before) :
    ∃ pieces rest, pieces.map Piece.token = s.tokens.tokens ∧ s.rest = charsOf pieces ++ rest ∧
      Tiling before pieces rest ∧
      ∀ n, s.tokens.stop = .ok n →
        (∀ c ∈ rest, isBlank c = true) ∧ n = utf8Length (before ++ s.rest) := by
  induction s using tokens.induct generalizing before with
  | case1 s e s' hn =>
    rw [tokens_of_error hn]
    refine ⟨[], s.rest, rfl, rfl, .nil _ _, fun n h => ?_⟩
    cases h
  | case2 s t s' hn ht =>
    rw [tokens_of_finish hn ht]
    obtain ⟨hblank, rfl, -⟩ := of_next_finish hn ht
    refine ⟨[], s.rest, rfl, rfl, .nil _ _, fun n h => ⟨hblank, ?_⟩⟩
    rw [utf8Length_append, ← hs, ← Except.ok.inj h]
  | case3 s t s' hn ht _ ih =>
    rw [tokens_of_token hn ht]
    obtain ⟨p, rfl, hrest, hstands, hposition⟩ := exists_piece hs hn ht
    obtain ⟨pieces, rest, htokens, hrest', htiling, hend⟩ := ih hposition
    rw [hrest'] at hstands
    refine ⟨p :: pieces, rest, congrArg (p.token :: ·) htokens, ?_, .cons hstands htiling, ?_⟩
    · rw [charsOf_cons, hrest, hrest', List.append_assoc]
    · rwa [hrest, ← List.append_assoc]

/-! ## Calling again and again -/

/-- What a scanner returns when it is called after `n` other calls. -/
def call (s : Scanner) : Nat → Except Stray Token
  | 0 => s.next.1
  | n + 1 => s.next.2.call n

/-- The tokens are returned one by one. -/
theorem call_of_getElem? {i : Nat} (h : s.tokens.tokens[i]? = some t) : s.call i = .ok t := by
  induction s using tokens.induct generalizing i with
  | case1 s e s' hn =>
    rw [tokens_of_error hn] at h
    cases h
  | case2 s u s' hn hu =>
    rw [tokens_of_finish hn hu] at h
    cases h
  | case3 s u s' hn hu _ ih =>
    rw [tokens_of_token hn hu] at h
    cases i with
    | zero =>
      cases h
      rw [call, hn]
    | succ i =>
      rw [call, hn]
      exact ih h

/-- A stray symbol is returned behind the last token. -/
theorem call_of_error {e : Stray} (h : s.tokens.stop = .error e) :
    s.call s.tokens.tokens.length = .error e := by
  induction s using tokens.induct with
  | case1 s e' s' hn =>
    rw [tokens_of_error hn] at h ⊢
    cases h
    exact congrArg Prod.fst hn
  | case2 s t s' hn ht =>
    rw [tokens_of_finish hn ht] at h
    cases h
  | case3 s t s' hn ht _ ih =>
    rw [tokens_of_token hn ht] at h ⊢
    rw [List.length_cons, call, hn]
    exact ih h

/-- The end is returned behind the last token, and by every call after that. -/
theorem call_of_finish {p n : Nat} (h : s.tokens.stop = .ok p) (hn : s.tokens.tokens.length ≤ n) :
    s.call n = .ok ⟨.finish, "", p⟩ := by
  have hend {s s' : Scanner} {t : Token} (hnext : s.next = (.ok t, s')) (ht : t.kind = .finish)
      (n : Nat) : s.call n = .ok t := by
    induction n generalizing s with
    | zero => rw [call, hnext]
    | succ n ih =>
      rw [call, hnext]
      exact ih (of_next_finish hnext ht).2.2
  induction s using tokens.induct generalizing n with
  | case1 s e s' hs =>
    rw [tokens_of_error hs] at h
    cases h
  | case2 s t s' hs ht =>
    rw [hend hs ht n]
    rw [tokens_of_finish hs ht] at h
    obtain ⟨-, rfl, -⟩ := of_next_finish hs ht
    cases h
    rfl
  | case3 s t s' hs ht _ ih =>
    rw [tokens_of_token hs ht] at h hn
    obtain ⟨m, rfl⟩ := Nat.exists_eq_add_of_le' (Nat.zero_lt_of_lt hn)
    rw [call, hs]
    exact ih h (Nat.le_of_succ_le_succ hn)

end Scanner

/-! ## Whole texts -/

theorem utf8ByteSize_ofList (cs : List Char) : (String.ofList cs).utf8ByteSize = utf8Length cs := by
  induction cs with
  | nil => rfl
  | cons c cs ih =>
    rw [String.ofList_cons, String.utf8ByteSize_append, String.utf8ByteSize_singleton, ih,
      utf8Length]

theorem utf8ByteSize_eq (text : String) : text.utf8ByteSize = utf8Length text.toList := by
  rw [← utf8ByteSize_ofList, String.ofList_toList]

/-- The tokens of a whole text tile it. -/
theorem exists_tiling_tokensOf (text : String) :
    ∃ pieces rest, pieces.map Piece.token = (tokensOf text).tokens ∧
      text.toList = charsOf pieces ++ rest ∧ Tiling [] pieces rest ∧
      ∀ n, (tokensOf text).stop = .ok n →
        (∀ c ∈ rest, isBlank c = true) ∧ n = text.utf8ByteSize := by
  have hstart : (Scanner.ofString text).position = utf8Length [] := rfl
  rw [utf8ByteSize_eq]
  exact (Scanner.ofString text).exists_tiling hstart

/-- A token begins where a character does, or at the end. -/
theorem Token.StandsIn.isValid {text : String} {t : Token} (h : t.StandsIn text.toList) :
    (String.Pos.Raw.mk t.position).IsValid text := by
  obtain ⟨before, rest, htext, hposition, -⟩ := h
  rw [String.Pos.Raw.isValid_iff_exists_append]
  refine ⟨.ofList before, .ofList rest, ?_, ?_⟩
  · rw [← String.ofList_append, ← htext, String.ofList_toList]
  · rw [String.rawEndPos, utf8ByteSize_ofList, hposition]

/-- **The tokens tile their text.** They and the blanks between them make up what has been
read, each is written at its position and is not part of anything longer that is, and the
positions are those of characters and grow. A scanner returns them one by one, and then
the stray symbol or, for ever, the end of the text. -/
theorem tokensOf_tile (text : String) :
    (∃ pieces rest, pieces.map Piece.token = (tokensOf text).tokens ∧
      text.toList = charsOf pieces ++ rest ∧ Tiling [] pieces rest ∧
      ∀ n, (tokensOf text).stop = .ok n →
        (∀ c ∈ rest, isBlank c = true) ∧ n = text.utf8ByteSize) ∧
    ((tokensOf text).withEnd.map Token.position).Pairwise (· < ·) ∧
    (∀ t ∈ (tokensOf text).withEnd, (String.Pos.Raw.mk t.position).IsValid text) ∧
    (∀ i t, (tokensOf text).tokens[i]? = some t → (Scanner.ofString text).call i = .ok t) ∧
    match (tokensOf text).stop with
    | .error symbol => (Scanner.ofString text).call (tokensOf text).tokens.length = .error symbol
    | .ok position => ∀ n, (tokensOf text).tokens.length ≤ n →
        (Scanner.ofString text).call n = .ok ⟨.finish, "", position⟩ := by
  obtain ⟨pieces, rest, htokens, htext, htiling, hend⟩ := exists_tiling_tokensOf text
  refine ⟨⟨pieces, rest, htokens, htext, htiling, hend⟩, ?_,
    fun t ht => (standsIn_of_mem ht).isValid, fun i t => Scanner.call_of_getElem?, ?_⟩
  · have hpositions : (tokensOf text).tokens.map Token.position =
        pieces.map fun p => p.token.position := by
      rw [← htokens, List.map_map]
      rfl
    rw [Tokens.withEnd, List.map_append, hpositions]
    split
    · next n hn =>
      refine List.pairwise_append.2 ⟨htiling.pairwise_lt, List.pairwise_singleton _ _, ?_⟩
      intro a ha b hb
      obtain ⟨p, hp, rfl⟩ := List.mem_map.1 ha
      have hlast := (htiling.position_bounds p hp).2
      rw [List.append_assoc, ← htext, List.nil_append, ← utf8ByteSize_eq] at hlast
      rw [List.mem_singleton.1 hb]
      exact (hend n hn).2 ▸ hlast
    · rw [List.map_nil, List.append_nil]
      exact htiling.pairwise_lt
  · split
    · next symbol hstop => exact Scanner.call_of_error hstop
    · next position hstop => exact fun n => Scanner.call_of_finish hstop

/-- Behind a letter of two bytes and an operator of two characters. -/
example : (Scanner.ofString "'é'<=1 ").call 2 = .ok ⟨.number, "1", 6⟩ := rfl

end RecordQuery
