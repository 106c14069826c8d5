import RecordQuery.Filter.Token
import RecordQuery.Text.Blank
import RecordQuery.Text.Utf8
/-!
# Lexemes — cutting a filter text into tokens

`lexeme` reads one lexeme from the beginning of a text, `Scanner.next` skips
blanks before it and keeps the byte offset, and `tokensOf` collects the tokens
up to the end of the text or its first stray symbol. Every lexeme takes at
least one character (`Lexeme.size_pos`), so scanning ends.
-/

namespace RecordQuery

/-- Whether a character can start a field name: a letter A to Z or an
underscore. -/
def startsName (c : Char) : Bool := c.isAlpha || c == '_'

/-- Whether a character can continue a field name. A point separates the
segments of a path. -/
def continuesName (c : Char) : Bool := c.isAlphanum || c == '_' || c == '.'

/-- What is read at the beginning of a text: a token of a kind, with its text
and the number of characters it takes, or a symbol that belongs to no token,
`before` characters into the text, with the number of characters given up. -/
inductive Lexeme where
  | token (kind : TokenKind) (text : List Char) (size : Nat)
  | stray (symbol : Char) (before : Nat) (size : Nat)
deriving DecidableEq, Repr

namespace Lexeme

/-- An operator or a bracket, which is its own text. -/
def mark (kind : TokenKind) (text : List Char) : Lexeme := .token kind text text.length

/-- A name: a word with a meaning of its own, or a field. -/
def name (cs : List Char) : Lexeme :=
  let text := cs.takeWhile continuesName
  let kind : TokenKind :=
    if text = "null".toList then .null
    else if text = "and".toList then .and
    else if text = "or".toList then .or
    else if text = "not".toList then .not
    else .field
  .token kind text text.length

/-- A number after its sign: digits with at most one point among them or
behind them. -/
def number (sign : List Char) (cs : List Char) : Lexeme :=
  let whole := cs.takeWhile Char.isDigit
  match cs.dropWhile Char.isDigit with
  | '.' :: rest =>
    let text := sign ++ whole ++ '.' :: rest.takeWhile Char.isDigit
    match rest.dropWhile Char.isDigit with
    | '.' :: _ => .stray '.' text.length text.length
    | _ => .token .number text text.length
  | _ => .token .number (sign ++ whole) (sign ++ whole).length

/-- A string after its opening quote, up to the same quote. A string that is
never closed takes the rest of the text. -/
def string (quote : Char) (cs : List Char) : Lexeme :=
  let text := cs.takeWhile (· != quote)
  match cs.dropWhile (· != quote) with
  | [] => .stray quote 0 (text.length + 1)
  | _ :: _ => .token .string text (text.length + 2)

/-- The lexeme at the beginning of a text that starts with `c`. -/
def read (c : Char) (cs : List Char) : Lexeme :=
  if c = '(' then mark .leftParen [c]
  else if c = ')' then mark .rightParen [c]
  else if c = '~' then mark .like [c]
  else if c = '=' then
    match cs with
    | '=' :: _ => mark .eq ['=', '=']
    | _ => .stray c 0 1
  else if c = '!' then
    match cs with
    | '=' :: _ => mark .ne ['!', '=']
    | '~' :: _ => mark .unlike ['!', '~']
    | _ => .stray c 0 1
  else if c = '<' then
    match cs with
    | '=' :: _ => mark .le ['<', '=']
    | _ => mark .lt [c]
  else if c = '>' then
    match cs with
    | '=' :: _ => mark .ge ['>', '=']
    | _ => mark .gt [c]
  else if c = '\'' ∨ c = '"' then string c cs
  else if c = '-' then
    match cs with
    | d :: _ => if d.isDigit then number [c] cs else .stray c 0 0
    | [] => .stray c 0 0
  else if c.isDigit then number [] (c :: cs)
  else if startsName c then name (c :: cs)
  else .stray c 0 0

/-- The number of characters that a lexeme takes. -/
def size : Lexeme → Nat
  | .token _ _ n => n
  | .stray _ _ n => n

/-- Whether a lexeme is a token. -/
def isToken : Lexeme → Bool
  | .token .. => true
  | .stray .. => false

end Lexeme

/-! ## Scanning -/

/-- A symbol that belongs to no token, and its byte offset. -/
structure Stray where
  symbol : Char
  position : Nat
deriving DecidableEq, Repr

/-- A place in a text: what is left of it, and the byte offset. -/
structure Scanner where
  rest : List Char
  position : Nat
deriving DecidableEq, Repr

namespace Scanner

/-- The beginning of a text. -/
def ofString (s : String) : Scanner := ⟨s.toList, 0⟩

/-- The place some characters further on. -/
def drop (s : Scanner) (n : Nat) : Scanner :=
  ⟨s.rest.drop n, s.position + utf8Length (s.rest.take n)⟩

/-- The place behind the blanks. -/
def skipBlanks (s : Scanner) : Scanner :=
  ⟨s.rest.dropWhile isBlank, s.position + utf8Length (s.rest.takeWhile isBlank)⟩

/-- The next token or stray symbol, and the place behind what was read. At
the end of the text there is always one more token, the end itself. -/
def next (s : Scanner) : Except Stray Token × Scanner :=
  let s := s.skipBlanks
  match s.rest with
  | [] => (.ok ⟨.finish, "", s.position⟩, s)
  | c :: cs =>
    match Lexeme.read c cs with
    | .token kind text size => (.ok ⟨kind, String.ofList text, s.position⟩, s.drop size)
    | .stray symbol before size => (.error ⟨symbol, (s.drop before).position⟩, s.drop size)

end Scanner

/-! ## All tokens of a text -/

/-- The tokens of a text up to its end or up to a stray symbol, and which of
the two stops them. -/
structure Tokens where
  tokens : List Token
  stop : Except Stray Nat
deriving Repr

/-- The first character of a run belongs to it. -/
theorem length_takeWhile_pos {p : Char → Bool} {c : Char} {cs : List Char} (h : p c = true) :
    0 < ((c :: cs).takeWhile p).length := by
  simp only [List.takeWhile, h, List.length_cons, Nat.zero_lt_succ]

/-- A number that starts with a digit takes a character. -/
theorem Lexeme.number_size_pos {sign : List Char} {d : Char} {cs : List Char}
    (h : d.isDigit = true) : 0 < (number sign (d :: cs)).size := by
  have hpos : 0 < ((d :: cs).takeWhile Char.isDigit).length := length_takeWhile_pos h
  simp only [number]
  split
  · split <;> simp only [size, List.length_append, List.length_cons] <;> omega
  · simp only [size, List.length_append]
    omega

/-- A name takes a character. -/
theorem Lexeme.name_size_pos {c : Char} {cs : List Char} (h : startsName c = true) :
    0 < (name (c :: cs)).size := by
  refine length_takeWhile_pos ?_
  simp only [startsName, continuesName, Char.isAlphanum, Bool.or_eq_true] at h ⊢
  rcases h with h | h
  · exact Or.inl (Or.inl (Or.inl h))
  · exact Or.inl (Or.inr h)

/-- A string takes its quote. -/
theorem Lexeme.string_size_pos {quote : Char} {cs : List Char} :
    0 < (string quote cs).size := by
  simp only [string]
  split <;> simp only [size] <;> omega

/-- **Every token takes a character.** -/
theorem Lexeme.size_pos {c : Char} {cs : List Char} (h : (read c cs).isToken = true) :
    0 < (read c cs).size := by
  revert h
  fun_cases read c cs with
  | case13 => exact fun _ => string_size_pos
  | case14 d cs hd => exact fun _ => number_size_pos ‹_›
  | case17 => exact fun _ => number_size_pos ‹_›
  | case18 => exact fun _ => name_size_pos ‹_›
  | _ => first | exact fun _ => Nat.succ_pos _ | nofun

namespace Scanner

/-- Skipping blanks lengthens nothing. -/
theorem length_skipBlanks_le (s : Scanner) : s.skipBlanks.rest.length ≤ s.rest.length :=
  (List.dropWhile_sublist _).length_le

/-- **Scanning a token shortens what is left.** -/
theorem length_next_lt {s s' : Scanner} {t : Token} (h : s.next = (.ok t, s'))
    (ht : t.kind ≠ .finish) : s'.rest.length < s.rest.length := by
  have hle := s.length_skipBlanks_le
  simp only [next] at h
  split at h
  · simp only [Prod.mk.injEq, Except.ok.injEq] at h
    rw [← h.1] at ht
    exact absurd rfl ht
  · next c cs hcs =>
    split at h
    · next kind text size hread =>
      have hpos : 0 < (Lexeme.read c cs).size := Lexeme.size_pos (by rw [hread]; rfl)
      simp only [Prod.mk.injEq] at h
      rw [← h.2, drop, List.length_drop]
      rw [hread, Lexeme.size] at hpos
      rw [hcs, List.length_cons] at hle ⊢
      omega
    · simp only [Prod.mk.injEq, reduceCtorEq, false_and] at h

/-- The tokens from a place on. -/
def tokens (s : Scanner) : Tokens :=
  match h : s.next with
  | (.error stray, _) => ⟨[], .error stray⟩
  | (.ok t, s') =>
    if ht : t.kind = .finish then ⟨[], .ok t.position⟩
    else
      have := length_next_lt h ht
      let later := s'.tokens
      ⟨t :: later.tokens, later.stop⟩
termination_by s.rest.length

end Scanner

/-- The tokens of a text. -/
def tokensOf (s : String) : Tokens := (Scanner.ofString s).tokens

end RecordQuery
