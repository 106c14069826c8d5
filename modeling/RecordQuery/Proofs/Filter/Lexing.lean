import RecordQuery.Filter.Parser
import RecordQuery.Proofs.Number.Numeral
/-!
# How texts fall into tokens

A lexeme ends where a blank or a closing bracket follows (`EndsWord`), whatever
comes after that. So the tokens of a text can be told from its parts:
`Spells cs ws` says that `cs` falls into the words `ws` wherever it stands
before the end of a word, and texts are put together with blanks and brackets
(`Spells.blank`, `Spells.bracketed`). The other direction asks what the text of
a token can be: field names are names, and no string contains both quotes.
-/

namespace RecordQuery

/-! ## Where words end -/

/-- Whether a lexeme before this text ends with it. -/
def EndsWord (cs : List Char) : Prop := ∀ c ∈ cs.head?, isBlank c = true ∨ c = ')'

theorem endsWord_nil : EndsWord [] := fun _ hc => absurd hc (Option.not_mem_none _)

theorem endsWord_blank (cs : List Char) : EndsWord (' ' :: cs) := by
  rintro c ⟨⟩
  exact Or.inl (by decide)

theorem endsWord_bracket (cs : List Char) : EndsWord (')' :: cs) := by
  rintro c ⟨⟩
  exact Or.inr rfl

/-- Names stay inside the ASCII range, above the blanks. -/
theorem toNat_of_continuesName {c : Char} (h : continuesName c = true) :
    46 ≤ c.toNat ∧ c.toNat ≤ 122 := by
  delta continuesName Char.isAlphanum Char.isAlpha Char.isUpper Char.isLower Char.isDigit at h
  simp only [Bool.or_eq_true, Bool.and_eq_true, decide_eq_true_eq, beq_iff_eq,
    UInt32.le_iff_toNat_le, ge_iff_le] at h
  change ((((65 ≤ c.toNat ∧ c.toNat ≤ 90) ∨ (97 ≤ c.toNat ∧ c.toNat ≤ 122)) ∨
    (48 ≤ c.toNat ∧ c.toNat ≤ 57)) ∨ c = '_') ∨ c = '.' at h
  rcases h with ((h | h) | rfl) | rfl
  · omega
  · omega
  · decide
  · decide

theorem toNat_of_isBlank {c : Char} (h : isBlank c = true) : c.toNat ≤ 32 ∨ 133 ≤ c.toNat := by
  simp only [isBlank, Bool.or_eq_true, Bool.and_eq_true, decide_eq_true_eq, beq_iff_eq] at h
  omega

theorem isBlank_of_continuesName {c : Char} (h : continuesName c = true) : isBlank c = false := by
  by_contra hb
  have := toNat_of_continuesName h
  have := toNat_of_isBlank (Bool.not_eq_false _ ▸ hb)
  omega

/-- Nothing that ends a word continues a name. -/
theorem EndsWord.not_continuesName {cs : List Char} (h : EndsWord cs) :
    ∀ c ∈ cs.head?, continuesName c = false := by
  intro c hc
  by_contra hn
  rw [Bool.not_eq_false] at hn
  rcases h c hc with hb | rfl
  · rw [isBlank_of_continuesName hn] at hb
    exact Bool.false_ne_true hb
  · exact absurd hn (by decide)

theorem continuesName_of_isDigit {c : Char} (h : c.isDigit = true) : continuesName c = true := by
  simp only [continuesName, Char.isAlphanum, h, Bool.or_true, Bool.true_or]

theorem EndsWord.not_isDigit {cs : List Char} (h : EndsWord cs) :
    ∀ c ∈ cs.head?, c.isDigit = false := by
  intro c hc
  by_contra hd
  have := continuesName_of_isDigit (Bool.not_eq_false _ ▸ hd)
  rw [h.not_continuesName c hc] at this
  exact Bool.false_ne_true this

/-! ## Single lexemes -/

/-- The words that are not names of fields. -/
def keywords : List (List Char) := ["null".toList, "and".toList, "or".toList, "not".toList]

/-- Whether a text is the name of a field: one name, and no keyword. -/
def FieldName (cs : List Char) : Prop :=
  cs.head?.any startsName = true ∧ (∀ c ∈ cs, continuesName c = true) ∧ cs ∉ keywords

instance (cs : List Char) : Decidable (FieldName cs) :=
  -- by the characters of the text, not by all characters
  haveI : Decidable (∀ c ∈ cs, continuesName c = true) := List.decidableBAll _ cs
  inferInstanceAs (Decidable (_ ∧ _ ∧ _))

/-- A field name, taken apart at its first character. -/
theorem FieldName.exists_cons {cs : List Char} (h : FieldName cs) :
    ∃ c ds, cs = c :: ds ∧ startsName c = true := by
  cases cs with
  | nil => exact absurd h.1 Bool.false_ne_true
  | cons c ds => exact ⟨c, ds, rfl, h.1⟩

theorem continuesName_of_startsName {c : Char} (h : startsName c = true) :
    continuesName c = true := by
  simp only [startsName, continuesName, Char.isAlphanum, Bool.or_eq_true] at h ⊢
  tauto

namespace Lexeme

/-- A letter or an underscore starts a name. -/
theorem read_of_startsName {c : Char} (cs : List Char) (h : startsName c = true) :
    read c cs = name (c :: cs) := by
  have hne (d : Char) (hd : startsName d = false) : c ≠ d := by
    rintro rfl
    rw [h] at hd
    exact Bool.false_ne_true hd.symm
  have hdigit : ¬ c.isDigit = true := by
    intro hd
    delta startsName Char.isAlpha Char.isUpper Char.isLower at h
    delta Char.isDigit at hd
    simp only [Bool.or_eq_true, Bool.and_eq_true, decide_eq_true_eq, beq_iff_eq,
      UInt32.le_iff_toNat_le, ge_iff_le] at h hd
    rcases h with h | rfl
    · change (65 ≤ c.toNat ∧ c.toNat ≤ 90) ∨ (97 ≤ c.toNat ∧ c.toNat ≤ 122) at h
      change 48 ≤ c.toNat ∧ c.toNat ≤ 57 at hd
      omega
    · exact absurd hd (by decide)
  have hquote : ¬ (c = '\'' ∨ c = '"') := not_or.2 ⟨hne _ rfl, hne _ rfl⟩
  rw [read.eq_def, if_neg (hne _ rfl), if_neg (hne _ rfl), if_neg (hne _ rfl), if_neg (hne _ rfl),
    if_neg (hne _ rfl), if_neg (hne _ rfl), if_neg (hne _ rfl), if_neg hquote,
    if_neg (hne _ rfl), if_neg hdigit, if_pos h]

/-- A digit starts a number. -/
theorem read_of_isDigit {c : Char} (cs : List Char) (h : c.isDigit = true) :
    read c cs = number [] (c :: cs) := by
  have hne (d : Char) (hd : d.isDigit = false) : c ≠ d := by
    rintro rfl
    rw [h] at hd
    exact Bool.false_ne_true hd.symm
  have hquote : ¬ (c = '\'' ∨ c = '"') := not_or.2 ⟨hne _ rfl, hne _ rfl⟩
  rw [read.eq_def, if_neg (hne _ rfl), if_neg (hne _ rfl), if_neg (hne _ rfl), if_neg (hne _ rfl),
    if_neg (hne _ rfl), if_neg (hne _ rfl), if_neg (hne _ rfl), if_neg hquote,
    if_neg (hne _ rfl), if_pos h]

/-- A minus sign before a digit starts a negative one. -/
theorem read_minus {c : Char} (cs : List Char) (h : c.isDigit = true) :
    read '-' (c :: cs) = number ['-'] (c :: cs) := by
  show (if c.isDigit then number ['-'] (c :: cs) else .stray '-' 0 0) = _
  rw [if_pos h]

/-- A smaller or greater sign is an operator of its own unless `=` follows. -/
theorem read_less (cs : List Char) (h : ∀ rest, cs ≠ '=' :: rest) :
    read '<' cs = mark .lt ['<'] := by
  rw [read.eq_def, if_neg (by decide), if_neg (by decide), if_neg (by decide),
    if_neg (by decide), if_neg (by decide), if_pos rfl]
  split
  · next rest => exact absurd rfl (h rest)
  · rfl

theorem read_greater (cs : List Char) (h : ∀ rest, cs ≠ '=' :: rest) :
    read '>' cs = mark .gt ['>'] := by
  rw [read.eq_def, if_neg (by decide), if_neg (by decide), if_neg (by decide),
    if_neg (by decide), if_neg (by decide), if_neg (by decide), if_pos rfl]
  split
  · next rest => exact absurd rfl (h rest)
  · rfl

/-- Either quote starts a string. -/
theorem read_quote {q : Char} (cs : List Char) (h : q = '\'' ∨ q = '"') :
    read q cs = string q cs := by
  rcases h with rfl | rfl <;> rfl

/-- A name ends where a word does. -/
theorem name_before {cs more : List Char} (hm : EndsWord more) : name (cs ++ more) = name cs := by
  simp only [name, takeWhile_before hm.not_continuesName]

theorem name_of_fieldName {w : List Char} (h : FieldName w) :
    name w = .token .field w w.length := by
  have hw : w.takeWhile continuesName = w := List.takeWhile_eq_self_iff.2 h.2.1
  have hk : w ≠ "null".toList ∧ w ≠ "and".toList ∧ w ≠ "or".toList ∧ w ≠ "not".toList := by
    simpa only [keywords, List.mem_cons, List.not_mem_nil, or_false, not_or] using h.2.2
  simp only [name, hw, if_neg hk.1, if_neg hk.2.1, if_neg hk.2.2.1, if_neg hk.2.2.2]

/-- A numeral is read in full before the end of a word. -/
theorem number_append {cs more : List Char} {d : Decimal} (sign : List Char) (h : Numeral cs d)
    (hm : EndsWord more) :
    number sign (cs ++ more) = .token .number (sign ++ cs) (sign ++ cs).length := by
  have hpoint : ∀ rest, more ≠ '.' :: rest := by
    rintro rest rfl
    exact absurd (hm.not_continuesName '.' rfl) (by decide)
  cases h with
  | whole hne hw =>
    simp only [number, hw.takeWhile_append hm.not_isDigit, hw.dropWhile_append hm.not_isDigit]
  | @point w f hne hw hf =>
    have hdot : ∀ c ∈ ('.' :: (f ++ more)).head?, c.isDigit = false := by
      rintro c ⟨⟩
      decide
    simp only [number, List.append_assoc, List.cons_append, hw.takeWhile_append hdot,
      hw.dropWhile_append hdot, hf.takeWhile_append hm.not_isDigit,
      hf.dropWhile_append hm.not_isDigit]

/-- A string is read up to its quote. -/
theorem string_append {q : Char} {cs : List Char} (h : q ∉ cs) (more : List Char) :
    string q (cs ++ q :: more) = .token .string cs (cs.length + 2) := by
  have hcs : ∀ c ∈ cs, (c != q) = true := by
    intro c hc
    rw [bne_iff_ne]
    rintro rfl
    exact h hc
  simp only [string, List.takeWhile_append_of_pos hcs, List.dropWhile_append_of_pos hcs,
    List.takeWhile_cons, List.dropWhile_cons, bne_self_eq_false, Bool.false_eq_true, if_false,
    List.append_nil]

end Lexeme

/-! ## Words -/

/-- A token without its position. -/
abbrev Word := TokenKind × String

/-- The word that a token is. -/
def Token.word (t : Token) : Word := (t.kind, t.text)

namespace Scanner

/-- A stray symbol ends the tokens. -/
theorem tokens_of_error {s s' : Scanner} {e : Stray} (h : s.next = (.error e, s')) :
    s.tokens = ⟨[], .error e⟩ := by
  rw [tokens]
  split
  · next h' =>
    cases h'.symm.trans h
    rfl
  · next h' => cases h'.symm.trans h

/-- The end of the text ends the tokens. -/
theorem tokens_of_finish {s s' : Scanner} {t : Token} (h : s.next = (.ok t, s'))
    (ht : t.kind = .finish) : s.tokens = ⟨[], .ok t.position⟩ := by
  rw [tokens]
  split
  · next h' => cases h'.symm.trans h
  · next h' =>
    cases h'.symm.trans h
    rw [dif_pos ht]

theorem tokens_of_token {s s' : Scanner} {t : Token} (h : s.next = (.ok t, s'))
    (ht : t.kind ≠ .finish) : s.tokens = ⟨t :: s'.tokens.tokens, s'.tokens.stop⟩ := by
  rw [tokens]
  split
  · next h' => cases h'.symm.trans h
  · next h' =>
    cases h'.symm.trans h
    rw [dif_neg ht]

/-- The tokens depend on the next one and what follows it. -/
theorem tokens_congr {s s' : Scanner} (h : s.next = s'.next) : s.tokens = s'.tokens := by
  rcases hs' : s'.next with ⟨e | t, r⟩
  · rw [tokens_of_error hs', tokens_of_error (h.trans hs')]
  · by_cases ht : t.kind = .finish
    · rw [tokens_of_finish hs' ht, tokens_of_finish (h.trans hs') ht]
    · rw [tokens_of_token hs' ht, tokens_of_token (h.trans hs') ht]

/-- Blanks before a token change its position only. -/
theorem next_blank {c : Char} (hc : isBlank c = true) (cs : List Char) (p : Nat) :
    (mk (c :: cs) p).next = (mk cs (p + c.utf8Size)).next := by
  have hskip : (mk (c :: cs) p).skipBlanks = (mk cs (p + c.utf8Size)).skipBlanks := by
    rw [skipBlanks, skipBlanks, List.dropWhile_cons_of_pos hc, List.takeWhile_cons_of_pos hc,
      utf8Length, Nat.add_assoc]
  rw [next, next, hskip]

/-- The next token of a text that starts with no blank is the lexeme at the place. -/
theorem next_of_read {c : Char} {cs text : List Char} {kind : TokenKind} {n : Nat}
    (hc : isBlank c = false) (h : Lexeme.read c cs = .token kind text n) (p : Nat) :
    (mk (c :: cs) p).next =
      (.ok ⟨kind, String.ofList text, p⟩, (mk (c :: cs) p).drop n) := by
  have hskip : (mk (c :: cs) p).skipBlanks = mk (c :: cs) p := by
    have hneg : ¬ isBlank c = true := Bool.eq_false_iff.1 hc
    rw [skipBlanks, List.dropWhile_cons_of_neg hneg, List.takeWhile_cons_of_neg hneg, utf8Length,
      Nat.add_zero]
  simp only [next, hskip, h]

/-- Reading words one after another, with blanks between them, leads from one
place to another. -/
inductive Reads : Scanner → List Word → Scanner → Prop
  | nil (s : Scanner) : Reads s [] s
  | blank {c : Char} {cs : List Char} {p : Nat} {ws : List Word} {s : Scanner}
      (hc : isBlank c = true) (h : Reads ⟨cs, p + c.utf8Size⟩ ws s) : Reads ⟨c :: cs, p⟩ ws s
  | token {s s' s'' : Scanner} {t : Token} {ws : List Word} (h : s.next = (.ok t, s'))
      (ht : t.kind ≠ .finish) (hws : Reads s' ws s'') : Reads s (t.word :: ws) s''

theorem Reads.append {s s' s'' : Scanner} {us ws : List Word} (h : Reads s us s')
    (h' : Reads s' ws s'') : Reads s (us ++ ws) s'' := by
  induction h with
  | nil s => exact h'
  | blank hc _ ih => exact .blank hc (ih h')
  | token hn ht _ ih => exact .token hn ht (ih h')

/-- **The words read are the first tokens.** -/
theorem Reads.tokens {s s' : Scanner} {ws : List Word} (h : Reads s ws s') :
    ∃ ts, ts.map Token.word = ws ∧ s.tokens = ⟨ts ++ s'.tokens.tokens, s'.tokens.stop⟩ := by
  induction h with
  | nil s => exact ⟨[], rfl, rfl⟩
  | @blank c cs p ws s hc _ ih => rwa [tokens_congr (next_blank hc cs p)]
  | @token s s' s'' t ws hn ht _ ih =>
    obtain ⟨ts, rfl, hts⟩ := ih
    exact ⟨t :: ts, rfl, by rw [tokens_of_token hn ht, hts]; rfl⟩

end Scanner

/-! ## Texts and their words -/

/-- Before the end of a word, wherever it stands, the text `cs` falls into the
words `ws`. -/
def Spells (cs : List Char) (ws : List Word) : Prop :=
  ∀ more p, EndsWord more → ∃ p', (Scanner.mk (cs ++ more) p).Reads ws ⟨more, p'⟩

/-- A lexeme, with its text, is one word. -/
theorem Scanner.reads_of_read {c : Char} {w more text : List Char} {kind : TokenKind}
    (hc : isBlank c = false) (hk : kind ≠ .finish)
    (h : Lexeme.read c (w ++ more) = .token kind text (w.length + 1)) (p : Nat) :
    ∃ p', (Scanner.mk (c :: w ++ more) p).Reads [(kind, String.ofList text)] ⟨more, p'⟩ := by
  have hdrop : ((c :: w) ++ more).drop (w.length + 1) = more := List.drop_left
  have hnext := next_of_read hc h p
  rw [drop, ← List.cons_append, hdrop] at hnext
  exact ⟨_, .token hnext hk (.nil _)⟩

theorem Spells.of_read {c : Char} {w text : List Char} {kind : TokenKind}
    (hc : isBlank c = false) (hk : kind ≠ .finish)
    (h : ∀ more, EndsWord more →
      Lexeme.read c (w ++ more) = .token kind text (w.length + 1)) :
    Spells (c :: w) [(kind, String.ofList text)] :=
  fun more p hm => Scanner.reads_of_read hc hk (h more hm) p

/-- A name or a keyword is a word. -/
theorem Spells.name {c : Char} {w : List Char} {kind : TokenKind} (hs : startsName c = true)
    (hall : (c :: w).all continuesName = true) (hk : kind ≠ .finish)
    (h : Lexeme.name (c :: w) = .token kind (c :: w) (w.length + 1)) :
    Spells (c :: w) [(kind, String.ofList (c :: w))] := by
  have hw : ∀ d ∈ c :: w, continuesName d = true := List.all_eq_true.1 hall
  refine .of_read (isBlank_of_continuesName (hw c List.mem_cons_self)) hk fun more hm => ?_
  rw [Lexeme.read_of_startsName _ hs, ← List.cons_append, Lexeme.name_before hm, h]

theorem Spells.fieldName {w : List Char} (h : FieldName w) :
    Spells w [(.field, String.ofList w)] := by
  obtain ⟨c, ds, rfl, hs⟩ := h.exists_cons
  exact .name hs (List.all_eq_true.2 h.2.1) (by decide) (Lexeme.name_of_fieldName h)

/-- A numeral is a word, with a sign or without. -/
theorem Spells.numeral {cs : List Char} {d : Decimal} (negative : Bool) (h : Numeral cs d) :
    Spells ((if negative then ['-'] else []) ++ cs)
      [(.number, String.ofList ((if negative then ['-'] else []) ++ cs))] := by
  obtain ⟨c, ds, rfl, hc⟩ := h.exists_cons
  cases negative
  · refine .of_read (isBlank_of_continuesName (continuesName_of_isDigit hc)) (by decide) ?_
    intro more hm
    rw [Lexeme.read_of_isDigit _ hc, ← List.cons_append, Lexeme.number_append [] h hm]
    rfl
  · refine .of_read (c := '-') (w := c :: ds) (by decide) (by decide) ?_
    intro more hm
    rw [List.cons_append, Lexeme.read_minus _ hc, ← List.cons_append,
      Lexeme.number_append ['-'] h hm]
    rfl

/-- A text between quotes that are not in it is a word. -/
theorem Spells.string {q : Char} {cs : List Char} (hq : q = '\'' ∨ q = '"') (h : q ∉ cs) :
    Spells (q :: (cs ++ [q])) [(.string, String.ofList cs)] := by
  refine .of_read (by rcases hq with rfl | rfl <;> decide) (by decide) fun more _ => ?_
  rw [Lexeme.read_quote _ hq, List.append_assoc, List.singleton_append,
    Lexeme.string_append h more, List.length_append, List.length_singleton]

/-- How an operator is written. -/
def TokenKind.sign : TokenKind → String
  | eq => "=="
  | ne => "!="
  | like => "~"
  | unlike => "!~"
  | lt => "<"
  | le => "<="
  | gt => ">"
  | ge => ">="
  | _ => ""

/-- An operator is a word. -/
theorem Spells.sign {k : TokenKind} (hk : k.isComparison = true) :
    Spells k.sign.toList [(k, k.sign)] := by
  -- only `<` and `>` look at what follows, and no word ends before `=`
  have hne {more : List Char} (hm : EndsWord more) : ∀ rest, more ≠ '=' :: rest := by
    rintro rest rfl
    rcases hm '=' rfl with h | h
    · exact absurd h (by decide)
    · exact absurd h (by decide)
  cases k with
  | eq => exact .of_read (c := '=') (w := ['=']) (by decide) (by decide) fun _ _ => rfl
  | ne => exact .of_read (c := '!') (w := ['=']) (by decide) (by decide) fun _ _ => rfl
  | like => exact .of_read (c := '~') (w := []) (by decide) (by decide) fun _ _ => rfl
  | unlike => exact .of_read (c := '!') (w := ['~']) (by decide) (by decide) fun _ _ => rfl
  | le => exact .of_read (c := '<') (w := ['=']) (by decide) (by decide) fun _ _ => rfl
  | ge => exact .of_read (c := '>') (w := ['=']) (by decide) (by decide) fun _ _ => rfl
  | lt =>
    refine .of_read (c := '<') (w := []) (by decide) (by decide) fun more hm => ?_
    exact Lexeme.read_less more (hne hm)
  | gt =>
    refine .of_read (c := '>') (w := []) (by decide) (by decide) fun more hm => ?_
    exact Lexeme.read_greater more (hne hm)
  | _ => exact absurd hk (by decide)

/-- Texts with a blank between them are read one after the other. -/
theorem Spells.blank {a b : List Char} {us ws : List Word} (ha : Spells a us)
    (hb : Spells b ws) : Spells (a ++ ' ' :: b) (us ++ ws) := by
  intro more p hm
  obtain ⟨q, hq⟩ := ha (' ' :: (b ++ more)) p (endsWord_blank _)
  obtain ⟨r, hr⟩ := hb more (q + ' '.utf8Size) hm
  refine ⟨r, ?_⟩
  rw [List.append_assoc, List.cons_append]
  exact hq.append (.blank (by decide) hr)

/-- Brackets are words whatever follows. -/
theorem Scanner.reads_leftParen (cs : List Char) (p : Nat) :
    ∃ p', (mk ('(' :: cs) p).Reads [(.leftParen, "(")] ⟨cs, p'⟩ :=
  @reads_of_read '(' [] cs ['('] .leftParen (by decide) (by decide) rfl p

theorem Scanner.reads_rightParen (cs : List Char) (p : Nat) :
    ∃ p', (mk (')' :: cs) p).Reads [(.rightParen, ")")] ⟨cs, p'⟩ :=
  @reads_of_read ')' [] cs [')'] .rightParen (by decide) (by decide) rfl p

/-- A text in brackets is read between them. -/
theorem Spells.bracketed {a : List Char} {us : List Word} (ha : Spells a us) :
    Spells ('(' :: (a ++ [')'])) ((.leftParen, "(") :: (us ++ [(.rightParen, ")")])) := by
  intro more p hm
  obtain ⟨q, hq⟩ := Scanner.reads_leftParen (a ++ [')'] ++ more) p
  obtain ⟨r, hr⟩ := ha ([')'] ++ more) q (endsWord_bracket more)
  obtain ⟨s, hs⟩ := Scanner.reads_rightParen more r
  rw [← List.append_assoc] at hr
  exact ⟨s, hq.append (hr.append hs)⟩

/-- **A text that spells words has them for its tokens.** -/
theorem Spells.tokensOf {s : String} {ws : List Word} (h : Spells s.toList ws) :
    ∃ ts stop, tokensOf s = ⟨ts, .ok stop⟩ ∧ ts.map Token.word = ws := by
  obtain ⟨p, hp⟩ := h [] 0 endsWord_nil
  obtain ⟨ts, hws, hts⟩ := hp.tokens
  rw [List.append_nil] at hts
  refine ⟨ts, p, ?_, hws⟩
  have hend : (Scanner.mk [] p).tokens = ⟨[], .ok p⟩ :=
    Scanner.tokens_of_finish (t := ⟨.finish, "", p⟩) rfl rfl
  rw [hend, List.append_nil] at hts
  exact hts

/-- A text of blanks has no tokens. -/
theorem tokensOf_of_allBlank {s : String} (h : allBlank s = true) : (tokensOf s).tokens = [] := by
  have hrest : ((Scanner.ofString s).skipBlanks).rest = [] :=
    List.dropWhile_eq_nil_iff.2 (List.all_eq_true.1 h)
  have hnext : (Scanner.ofString s).next =
      (.ok ⟨.finish, "", (Scanner.ofString s).skipBlanks.position⟩,
        (Scanner.ofString s).skipBlanks) := by
    simp only [Scanner.next, hrest]
  rw [RecordQuery.tokensOf, Scanner.tokens_of_finish hnext rfl]

/-! ## The texts of tokens -/

/-- What a token is read from. -/
theorem Scanner.of_next {s s' : Scanner} {t : Token} (h : s.next = (.ok t, s')) :
    (s.rest.dropWhile isBlank = [] ∧ t.kind = .finish) ∨
      ∃ c cs n, s.rest.dropWhile isBlank = c :: cs ∧ s'.rest = (c :: cs).drop n ∧
        Lexeme.read c cs = .token t.kind t.text.toList n := by
  simp only [next] at h
  split at h
  · next hrest =>
    cases h
    exact Or.inl ⟨hrest, rfl⟩
  · next c cs hrest =>
    split at h
    · next kind text n hread =>
      cases h
      refine Or.inr ⟨c, cs, n, hrest, congrArg (List.drop n) hrest, ?_⟩
      rw [hread, String.toList_ofList]
    · cases h

/-- **Every token is a lexeme that was read**, and the end is not among them. -/
theorem Scanner.exists_read_of_mem_tokens {s : Scanner} {t : Token} (h : t ∈ s.tokens.tokens) :
    t.kind ≠ .finish ∧ ∃ c cs n, Lexeme.read c cs = .token t.kind t.text.toList n := by
  -- along the scanner's own recursion, the next token being the only new one
  induction s using tokens.induct with
  | case1 s e s' hs =>
    rw [tokens_of_error hs] at h
    exact absurd h List.not_mem_nil
  | case2 s u s' hs hu =>
    rw [tokens_of_finish hs hu] at h
    exact absurd h List.not_mem_nil
  | case3 s u s' hs hu _ ih =>
    rw [tokens_of_token hs hu, List.mem_cons] at h
    rcases h with rfl | h
    · refine ⟨hu, ?_⟩
      rcases of_next hs with ⟨-, hfinish⟩ | ⟨c, cs, n, -, -, hread⟩
      · exact absurd hfinish hu
      · exact ⟨c, cs, n, hread⟩
    · exact ih h

namespace Lexeme

/-- What starts like a number is a number. -/
theorem kind_of_number {sign cs text : List Char} {kind : TokenKind} {n : Nat}
    (h : number sign cs = .token kind text n) : kind = .number := by
  simp only [number] at h
  split at h
  · split at h
    · cases h
    · cases h
      rfl
  · cases h
    rfl

theorem kind_of_string {q : Char} {cs text : List Char} {kind : TokenKind} {n : Nat}
    (h : string q cs = .token kind text n) : kind = .string := by
  simp only [string] at h
  split at h
  · cases h
  · cases h
    rfl

theorem kind_of_name {cs text : List Char} {kind : TokenKind} {n : Nat}
    (h : name cs = .token kind text n) : kind ≠ .string := by
  simp only [name, token.injEq] at h
  rw [← h.1]
  split_ifs <;> decide

/-- Only names are field names. -/
theorem fieldName_of_name {c : Char} {cs text : List Char} {n : Nat} (hc : startsName c = true)
    (h : name (c :: cs) = .token .field text n) : FieldName text := by
  simp only [name, token.injEq] at h
  obtain ⟨hk, rfl, -⟩ := h
  refine ⟨?_, fun d hd => List.mem_takeWhile_imp hd, fun hmem => ?_⟩
  · rw [List.takeWhile_cons_of_pos (continuesName_of_startsName hc)]
    exact hc
  · simp only [keywords, List.mem_cons, List.not_mem_nil, or_false] at hmem
    split_ifs at hk with h1 h2 h3 h4
    tauto

/-- A string does not contain its quote. -/
theorem not_mem_of_string {q : Char} {cs text : List Char} {kind : TokenKind} {n : Nat}
    (h : string q cs = .token kind text n) : q ∉ text := by
  simp only [string] at h
  split at h
  · cases h
  · cases h
    intro hq
    have := List.mem_takeWhile_imp hq
    rw [bne_self_eq_false] at this
    exact Bool.false_ne_true this

theorem fieldName_of_read {c : Char} {cs text : List Char} {n : Nat}
    (h : read c cs = .token .field text n) : FieldName text := by
  revert h
  -- a string, two kinds of numbers and a name; the other lexemes are symbols
  fun_cases read c cs with
  | case13 =>
    intro h
    cases kind_of_string h
  | case14 =>
    intro h
    cases kind_of_number h
  | case17 =>
    intro h
    cases kind_of_number h
  | case18 => exact fieldName_of_name ‹_›
  | _ =>
    intro h
    cases h

theorem quote_of_read {c : Char} {cs text : List Char} {n : Nat}
    (h : read c cs = .token .string text n) : '\'' ∉ text ∨ '"' ∉ text := by
  revert h
  fun_cases read c cs with
  | case13 =>
    intro h
    rcases ‹c = '\'' ∨ c = '"'› with rfl | rfl
    · exact Or.inl (not_mem_of_string h)
    · exact Or.inr (not_mem_of_string h)
  | case14 =>
    intro h
    cases kind_of_number h
  | case17 =>
    intro h
    cases kind_of_number h
  | case18 => exact fun h => absurd rfl (kind_of_name h)
  | _ =>
    intro h
    cases h

end Lexeme

/-- The field tokens of a text are names. -/
theorem fieldName_of_mem_tokensOf {s : String} {t : Token} (h : t ∈ (tokensOf s).tokens)
    (ht : t.kind = .field) : FieldName t.text.toList := by
  obtain ⟨-, c, cs, n, hread⟩ := Scanner.exists_read_of_mem_tokens h
  exact Lexeme.fieldName_of_read (ht ▸ hread)

/-- No string token of a text has both quotes in it. -/
theorem quote_of_mem_tokensOf {s : String} {t : Token} (h : t ∈ (tokensOf s).tokens)
    (ht : t.kind = .string) : '\'' ∉ t.text.toList ∨ '"' ∉ t.text.toList := by
  obtain ⟨-, c, cs, n, hread⟩ := Scanner.exists_read_of_mem_tokens h
  exact Lexeme.quote_of_read (ht ▸ hread)

end RecordQuery
