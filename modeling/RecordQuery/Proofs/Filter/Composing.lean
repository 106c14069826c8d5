import RecordQuery.Proofs.Filter.Language
/-!
# Texts inside texts

A text that is read as a filter is read as the same filter inside brackets,
whatever stands outside of them: each of its tokens ends at its own end, or
before a blank or a bracket (`Lexeme.complete_of_read`), so its words are the
same there (`spells_of_tokensOf`), and brackets make a term of them. A filter can
be negated, and joined with another one, by text (`parseFilter_composed`).
-/

namespace RecordQuery

/-! ## Tokens before the end of a word -/

namespace Lexeme

variable {c q : Char} {sign cs more text : List Char} {kind : TokenKind} {n : Nat}

/-- A token that is read from characters that are there, and in the same way with
anything behind them that ends a word. -/
structure Complete (c : Char) (cs text : List Char) (kind : TokenKind) (n : Nat) : Prop where
  kind_ne : kind ≠ .finish
  size_le : n ≤ cs.length + 1
  before : ∀ more, EndsWord more → read c (cs ++ more) = .token kind text n

/-- What ends a word does not complete an operator or a number. -/
theorem append_ne_cons {d : Char} (hd : ¬ (isBlank d = true ∨ d = ')'))
    (hcs : ∀ rest, cs ≠ d :: rest) (hm : EndsWord more) : ∀ rest, cs ++ more ≠ d :: rest := by
  intro rest h
  rcases List.append_eq_cons_iff.1 h with ⟨-, rfl⟩ | ⟨tail, rfl, -⟩
  · exact hd (hm d rfl)
  · exact hcs tail rfl

/-- A number ends where a word does. -/
theorem number_before (h : number sign cs = .token kind text n) (hm : EndsWord more) :
    number sign (cs ++ more) = .token kind text n := by
  have hpoint : ¬ (isBlank '.' = true ∨ '.' = ')') := by decide
  simp only [number] at h
  simp only [number, takeWhile_before hm.not_isDigit, dropWhile_before hm.not_isDigit]
  split at h
  · next rest hrest =>
    simp only [hrest, List.cons_append, takeWhile_before hm.not_isDigit,
      dropWhile_before hm.not_isDigit]
    split at h
    · cases h
    · next hend =>
      split
      · next tail htail => exact absurd htail (append_ne_cons hpoint hend hm tail)
      · exact h
  · next hend =>
    split
    · next tail htail => exact absurd htail (append_ne_cons hpoint hend hm tail)
    · exact h

/-- A string has its quotes around it. -/
theorem exists_of_string (h : string q cs = .token kind text n) :
    ∃ rest, cs = text ++ q :: rest ∧ kind = .string ∧ n = text.length + 2 := by
  simp only [string] at h
  split at h
  · cases h
  · next d rest hrest =>
    cases h
    have hd := List.head?_dropWhile_not (· != q) cs
    rw [hrest] at hd
    obtain rfl : d = q := by simpa using hd
    refine ⟨rest, ?_, rfl, rfl⟩
    rw [← hrest, List.takeWhile_append_dropWhile]

/-- No token takes more than what is there. -/
theorem of_name (h : name cs = .token kind text n) : kind ≠ .finish ∧ n ≤ cs.length := by
  simp only [name, token.injEq] at h
  obtain ⟨rfl, rfl, rfl⟩ := h
  refine ⟨?_, (List.takeWhile_sublist _).length_le⟩
  split_ifs <;> decide

theorem number_size_le (h : number sign cs = .token kind text n) : n ≤ sign.length + cs.length := by
  have hcs : (cs.takeWhile Char.isDigit ++ cs.dropWhile Char.isDigit).length = cs.length := by
    rw [List.takeWhile_append_dropWhile]
  rw [List.length_append] at hcs
  simp only [number] at h
  split at h
  · next rest hrest =>
    have hrun := (List.takeWhile_sublist (l := rest) Char.isDigit).length_le
    rw [hrest, List.length_cons] at hcs
    split at h
    · cases h
    · cases h
      simp only [List.length_append, List.length_cons]
      omega
  · cases h
    rw [List.length_append]
    omega

/-- An operator or a bracket is complete if it is read before the end of a word. -/
theorem complete_of_mark {k : TokenKind} {sign : List Char} (hk : k ≠ .finish)
    (hsize : sign.length ≤ cs.length + 1)
    (hread : ∀ more, EndsWord more → read c (cs ++ more) = mark k sign)
    (h : mark k sign = .token kind text n) : Complete c cs text kind n := by
  cases h
  exact ⟨hk, hsize, hread⟩

/-- **Every token ends by itself or before the end of a word.** -/
theorem complete_of_read (h : read c cs = .token kind text n) : Complete c cs text kind n := by
  have hequals : ¬ (isBlank '=' = true ∨ '=' = ')') := by decide
  revert h
  fun_cases read c cs with
  | case1 | case2 | case3 =>
    subst_vars
    exact complete_of_mark (by decide) (Nat.le_add_left 1 _) fun _ _ => rfl
  | case4 | case6 | case7 | case9 | case11 =>
    subst_vars
    exact complete_of_mark (by decide) (Nat.le_add_left 2 _) fun _ _ => rfl
  | case10 =>
    -- for `<` and `>` it matters what comes next
    subst_vars
    refine complete_of_mark (by decide) (Nat.le_add_left 1 _) fun more hm => ?_
    exact read_less _ (append_ne_cons hequals ‹_› hm)
  | case12 =>
    subst_vars
    refine complete_of_mark (by decide) (Nat.le_add_left 1 _) fun more hm => ?_
    exact read_greater _ (append_ne_cons hequals ‹_› hm)
  | case13 =>
    intro h
    have hnot := not_mem_of_string h
    obtain ⟨rest, rfl, rfl, rfl⟩ := exists_of_string h
    refine ⟨by decide, ?_, fun more _ => ?_⟩
    · rw [List.length_append, List.length_cons]
      omega
    · rw [read_quote _ ‹_›, List.append_assoc, List.cons_append, string_append hnot]
  | case14 =>
    subst_vars
    intro h
    refine ⟨by rw [kind_of_number h]; decide, ?_, fun more hm => ?_⟩
    · have hsize := number_size_le h
      rw [List.length_singleton] at hsize
      omega
    · rw [List.cons_append, read_minus _ ‹_›, ← List.cons_append, number_before h hm]
  | case17 =>
    intro h
    refine ⟨by rw [kind_of_number h]; decide, ?_, fun more hm => ?_⟩
    · simpa using number_size_le h
    · rw [read_of_isDigit _ ‹_›, ← List.cons_append, number_before h hm]
  | case18 =>
    intro h
    obtain ⟨hk, hsize⟩ := of_name h
    refine ⟨hk, hsize, fun more hm => ?_⟩
    rw [read_of_startsName _ ‹_›, ← List.cons_append, name_before hm, h]
  | _ =>
    intro h
    cases h

end Lexeme

/-! ## The words of a text -/

namespace Spells

variable {cs : List Char} {ws : List Word}

theorem nil : Spells [] [] := fun _ p _ => ⟨p, .nil _⟩

/-- Blanks before a text add no words to it. -/
theorem blanks {bs : List Char} (hbs : ∀ c ∈ bs, isBlank c = true) (h : Spells cs ws) :
    Spells (bs ++ cs) ws := by
  induction bs with
  | nil => exact h
  | cons b bs ih =>
    obtain ⟨hb, hbs⟩ := List.forall_mem_cons.1 hbs
    intro more p hm
    obtain ⟨q, hq⟩ := ih hbs more (p + b.utf8Size) hm
    exact ⟨q, .blank hb hq⟩

theorem of_dropWhile (h : Spells (cs.dropWhile isBlank) ws) : Spells cs ws := by
  rw [← List.takeWhile_append_dropWhile (p := isBlank) (l := cs)]
  exact h.blanks fun c hc => List.mem_takeWhile_imp hc

/-- One more word, read from the beginning of a text. -/
theorem token {c : Char} {text : List Char} {kind : TokenKind} {n : Nat}
    (hc : isBlank c = false) (hread : Lexeme.read c cs = .token kind text n)
    (h : Spells ((c :: cs).drop n) ws) :
    Spells (c :: cs) ((kind, String.ofList text) :: ws) := by
  have hcomplete := Lexeme.complete_of_read hread
  intro more p hm
  have hdrop : (c :: (cs ++ more)).drop n = (c :: cs).drop n ++ more := by
    rw [← List.cons_append, List.drop_append_of_le_length hcomplete.size_le]
  have hnext := Scanner.next_of_read hc (hcomplete.before more hm) p
  rw [Scanner.drop, hdrop] at hnext
  obtain ⟨q, hq⟩ := h more _ hm
  exact ⟨q, .token hnext hcomplete.kind_ne hq⟩

end Spells

/-- **A text without stray symbols spells the words of its tokens.** -/
theorem spells_of_tokens {s : Scanner} {ts : List Token} {stop : Nat}
    (h : s.tokens = ⟨ts, .ok stop⟩) : Spells s.rest (ts.map Token.word) := by
  -- along the scanner's own recursion, which skips the blanks before each token
  induction s using Scanner.tokens.induct generalizing ts with
  | case1 s e s' hs =>
    rw [Scanner.tokens_of_error hs] at h
    cases h
  | case2 s t s' hs ht =>
    rw [Scanner.tokens_of_finish hs ht] at h
    cases h
    rcases Scanner.of_next hs with ⟨hrest, -⟩ | ⟨c, cs, n, -, -, hread⟩
    · refine .of_dropWhile ?_
      rw [hrest]
      exact .nil
    · exact absurd ht (Lexeme.complete_of_read hread).kind_ne
  | case3 s t s' hs ht _ ih =>
    rw [Scanner.tokens_of_token hs ht, Tokens.mk.injEq] at h
    obtain ⟨rfl, hstop⟩ := h
    have hlater : Spells s'.rest (s'.tokens.tokens.map Token.word) := ih (by rw [← hstop])
    rcases Scanner.of_next hs with ⟨-, hfinish⟩ | ⟨c, cs, n, hrest, hrest', hread⟩
    · exact absurd hfinish ht
    · have hc : isBlank c = false := by
        have hfirst := List.head?_dropWhile_not isBlank s.rest
        rwa [hrest] at hfirst
      rw [hrest'] at hlater
      have hspells := hlater.token hc hread
      rw [String.ofList_toList, ← hrest] at hspells
      exact hspells.of_dropWhile

theorem spells_of_tokensOf {text : String} {ts : List Token} {stop : Nat}
    (h : tokensOf text = ⟨ts, .ok stop⟩) : Spells text.toList (ts.map Token.word) :=
  spells_of_tokens h

/-! ## Parts of filters, by their texts -/

/-- A text of which the words are a part of the language, whatever ends the word
behind it. -/
def Sentence (part : Part) (cs : List Char) (f : Filter) : Prop :=
  ∃ ws n, Spells cs ws ∧ Derives part ws f n

namespace Sentence

variable {cs ds : List Char} {f l r : Filter}

/-- Brackets make a term of any filter. -/
theorem bracketed (h : Sentence (.chain .or) cs f) : Sentence .term ('(' :: (cs ++ [')'])) f := by
  obtain ⟨ws, n, hspells, hd⟩ := h
  exact ⟨_, _, hspells.bracketed, .group "(" ")" hd⟩

/-- A term is the operand of a `not`. -/
theorem negated (h : Sentence .term cs f) :
    Sentence .negation ("not".toList ++ ' ' :: cs) f.negate := by
  obtain ⟨ws, n, hspells, hd⟩ := h
  exact ⟨_, _, spells_not.blank hspells, .not "not" (.term hd)⟩

/-- Two terms are the operands of either connective. -/
theorem joined (c : Connective) (hl : Sentence .term cs l) (hr : Sentence .term ds r) :
    Sentence (.chain c) (cs ++ ' ' :: (c.keyword.toList ++ ' ' :: ds)) (.junction c l r false) := by
  obtain ⟨us, m, hspellsl, hl⟩ := hl
  obtain ⟨ws, n, hspellsr, hr⟩ := hr
  have hfirst : Derives (.chain c) us l m := .operand (Derives.of_negation (.term hl))
  exact ⟨_, _, hspellsl.blank ((spells_keyword c).blank hspellsr),
    hfirst.join c.keyword (Derives.of_negation (.term hr))⟩

/-- Every part of a filter is one itself. -/
theorem whole {part : Part} (h : Sentence part cs f) : Sentence (.chain .or) cs f := by
  obtain ⟨ws, n, hspells, hd⟩ := h
  refine ⟨ws, n, hspells, ?_⟩
  cases part with
  | chain c => exact hd.of_chain
  | negation => exact .operand hd.of_negation
  | term => exact .operand (Derives.of_negation (.term hd))

/-- What is read is a sentence. -/
theorem of_parseFilter {limit : Nat} {text : String}
    (h : parseFilter limit text = .ok (some f)) : Sentence (.chain .or) text.toList f := by
  obtain ⟨ts, stop, n, hts, hd, -⟩ := derives_of_parseFilter h
  exact ⟨_, n, spells_of_tokensOf hts, hd⟩

end Sentence

/-! ## Composed texts -/

/-- A text that is read as a filter, under every limit that is not too small for
it, and so if it is not longer than the limit. -/
def ReadAs (text : String) (f : Filter) : Prop :=
  (∀ limit, text.length ≤ limit → parseFilter limit text = .ok (some f)) ∧
    ∀ limit, parseFilter limit text = .ok (some f) ∨
      ∃ position, parseFilter limit text = .error (.tooDeep limit position)

theorem Sentence.readAs {text : String} {f : Filter} (h : Sentence (.chain .or) text.toList f) :
    ReadAs text f := by
  obtain ⟨ws, n, hspells, hd⟩ := h
  obtain ⟨ts, stop, hts, rfl⟩ := hspells.tokensOf
  refine ⟨fun limit hlimit => (parseFilter_of_derives hts hd).1 (hd.fits ?_), fun limit => ?_⟩
  · have hlength := (Scanner.ofString text).length_tokens_le
    change (tokensOf text).tokens.length ≤ text.length at hlength
    rw [hts] at hlength
    rw [List.length_map]
    exact hlength.trans hlimit
  · by_cases hfits : Fits limit 0 f n
    · exact Or.inl ((parseFilter_of_derives hts hd).1 hfits)
    · exact Or.inr ((parseFilter_of_derives hts hd).2 hfits)

/-- **Texts in brackets can be composed.** Whatever else stands around a text in
brackets, it is read as what it is read as alone, and nothing in it reaches out of
them. No text in memory is longer than the greatest word. -/
theorem parseFilter_composed {limit limit' : Nat} {x y : String} {a b : Filter}
    (hx : parseFilter limit x = .ok (some a)) (hy : parseFilter limit' y = .ok (some b)) :
    ReadAs ("(" ++ x ++ ")") a ∧
      ReadAs ("not (" ++ x ++ ")") a.negate ∧
      ReadAs ("(" ++ x ++ ") and (" ++ y ++ ")") (a.and b) ∧
      ReadAs ("(" ++ x ++ ") or (" ++ y ++ ")") (a.or b) := by
  have hleft := (Sentence.of_parseFilter hx).bracketed
  have hright := (Sentence.of_parseFilter hy).bracketed
  refine ⟨Sentence.readAs ?_, Sentence.readAs ?_, Sentence.readAs ?_, Sentence.readAs ?_⟩
  · simpa using hleft.whole
  · simpa using hleft.negated.whole
  · simpa [Connective.keyword, Filter.and] using (hleft.joined .and hright).whole
  · simpa [Connective.keyword, Filter.or] using (hleft.joined .or hright).whole

/-- A filter to compose others with. -/
def restriction : Filter := .condition ⟨["d"], .isNull, true⟩

/-- Inside the brackets of its own, an `or` does not reach past an `and`. -/
theorem mixedText_composed :
    parseFilter (UInt64.size - 1) mixedText = .ok (some mixedTree) ∧
      parseFilter 1 restriction.text = .ok (some restriction) ∧
      ReadAs ("(" ++ mixedText ++ ") and (" ++ restriction.text ++ ")")
        (mixedTree.and restriction) := by
  obtain ⟨ts, stop, hts, n, hd⟩ := mixedText_denotes
  have hmixed : parseFilter (UInt64.size - 1) mixedText = .ok (some mixedTree) :=
    (Sentence.readAs ⟨_, n, spells_of_tokensOf hts, hd⟩).1 _ (by decide)
  have hrestriction : parseFilter 1 restriction.text = .ok (some restriction) :=
    (Filter.parseFilter_text 1 (by decide)).1 ⟨by decide, by decide⟩
  exact ⟨hmixed, hrestriction, (parseFilter_composed hmixed hrestriction).2.2.1⟩

end RecordQuery
