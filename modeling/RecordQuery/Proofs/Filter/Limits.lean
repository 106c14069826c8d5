import RecordQuery.Proofs.Filter.Canonical
/-!
# What a limit changes

Reading under a limit comes to the same end as reading under a greater one, unless
it ends because something is too deep (`Cursor.agrees_read`). What is too deep can be
told from the tokens and the tree: a filter is read under a limit if it is read
under a greater one, its tree is no deeper than the limit, and no more brackets
and `not`s than that are open at any point of its text (`Openings.most`). A bracket is
open up to its counterpart, and a `not` up to the end of its operand.
-/

namespace RecordQuery

/-! ## What is open -/

/-- What is waiting for its end: a bracket, or the operand of a `not`. -/
inductive Opening where
  | bracket
  | negation
deriving DecidableEq, Repr

/-- What is open, the innermost first. -/
abbrev Openings := List Opening

namespace Openings

/-- What is open behind an operand, which closes the `not`s before it. -/
def closed (o : Openings) : Openings := o.dropWhile (· = .negation)

/-- What is open behind a token. A condition ends with its literal, and a
bracket with the closing one. -/
def behind (o : Openings) : TokenKind → Openings
  | .not => .negation :: o
  | .leftParen => .bracket :: o
  | .rightParen => closed o.tail
  | .string | .number | .null => closed o
  | _ => o

/-- What is open behind some tokens. -/
def behindAll (o : Openings) (ks : List TokenKind) : Openings := ks.foldl behind o

/-- The greatest number of brackets and `not`s that are open at the same time,
between any two of some tokens. -/
def most (o : Openings) : List TokenKind → Nat
  | [] => o.length
  | k :: ks => max o.length (most (o.behind k) ks)

variable {o : Openings} {us ks : List TokenKind}

theorem length_closed_le (o : Openings) : o.closed.length ≤ o.length :=
  (List.dropWhile_sublist _).length_le

/-- What may be open before a part: a chain is no operand of a `not`. -/
def Before (o : Openings) : Part → Prop
  | .chain _ => o.closed = o
  | _ => True

theorem before_operand {c : Connective} (h : o.Before (.chain c)) : o.Before c.operand := by
  cases c with
  | and => exact trivial
  | or => exact h

theorem behind_not (o : Openings) : o.behind .not = .negation :: o := rfl

theorem behind_leftParen (o : Openings) : o.behind .leftParen = .bracket :: o := rfl

/-- The closing bracket belongs to the innermost one. -/
theorem behind_rightParen (o : Openings) : behind (.bracket :: o) .rightParen = o.closed := rfl

/-- A connective opens and closes nothing. -/
theorem behind_connective (o : Openings) (c : Connective) : o.behind c.kind = o := by
  cases c <;> rfl

/-- A comparison opens and closes nothing. -/
theorem behind_comparison {k : TokenKind} (h : k.isComparison = true) : o.behind k = o := by
  have hmem : k ∈ TokenKind.comparisons := List.contains_iff_mem.1 h
  simp only [TokenKind.comparisons, List.mem_cons, List.not_mem_nil, or_false] at hmem
  rcases hmem with rfl | rfl | rfl | rfl | rfl | rfl | rfl | rfl <;> rfl

/-- A literal closes the `not`s before its condition. -/
theorem behind_literal {k : TokenKind} {w : Word} {test : Test} {negated : Bool}
    (h : Suits k w test negated) : o.behind w.1 = o.closed := by
  cases h <;> rfl

theorem behindAll_cons (o : Openings) (k : TokenKind) (ks : List TokenKind) :
    o.behindAll (k :: ks) = (o.behind k).behindAll ks := rfl

theorem most_cons (o : Openings) (k : TokenKind) (ks : List TokenKind) :
    o.most (k :: ks) = max o.length ((o.behind k).most ks) := rfl

theorem behindAll_append : o.behindAll (us ++ ks) = (o.behindAll us).behindAll ks :=
  List.foldl_append

theorem most_append : o.most (us ++ ks) = max (o.most us) ((o.behindAll us).most ks) := by
  induction us generalizing o with
  | nil =>
    cases ks with
    | nil => exact (max_self _).symm
    | cons k ks => exact (max_eq_right (le_max_left _ _)).symm
  | cons k us ih =>
    rw [List.cons_append, most, most, ih, max_assoc]
    rfl

end Openings

/-- The kinds of some words. -/
def kinds (ws : List Word) : List TokenKind := ws.map Prod.fst

theorem kinds_cons (w : Word) (ws : List Word) : kinds (w :: ws) = w.1 :: kinds ws := rfl

theorem kinds_append (us ws : List Word) : kinds (us ++ ws) = kinds us ++ kinds ws :=
  List.map_append

/-- **What is open inside a part, and behind it.** Behind it, what was open before
it, less the `not`s that it is the operand of. -/
theorem Derives.openings {part : Part} {ws : List Word} {f : Filter} {n : Nat} {o : Openings}
    (h : Derives part ws f n) (ho : o.Before part) :
    o.behindAll (kinds ws) = o.closed ∧ o.most (kinds ws) = o.length + n := by
  induction h generalizing o with
  | operand _ ih => exact ih (Openings.before_operand ho)
  | join t _ _ ihl ihr =>
    have hclosed : o.closed = o := ho
    obtain ⟨hus, hmostl⟩ := ihl ho
    obtain ⟨hws, hmostr⟩ := ihr (Openings.before_operand ho)
    rw [kinds_append, kinds_cons, Openings.behindAll_append, Openings.most_append, hus, hclosed,
      Openings.behindAll_cons, Openings.most_cons, Openings.behind_connective, hmostl, hmostr]
    exact ⟨hws.trans hclosed, by omega⟩
  | not t _ ih =>
    obtain ⟨hws, hmost⟩ := ih (o := .negation :: o) trivial
    rw [kinds_cons, Openings.behindAll_cons, Openings.most_cons, Openings.behind_not, hmost,
      List.length_cons]
    exact ⟨hws, by omega⟩
  | term _ ih => exact ih trivial
  | @group ws f n t t' _ ih =>
    -- behind what it holds, the bracket itself is the innermost that is open
    obtain ⟨hws, hmost⟩ := ih (o := .bracket :: o) rfl
    have hbehind : Openings.behindAll (.bracket :: o) (kinds ws) = .bracket :: o := hws
    have hle := o.length_closed_le
    rw [kinds_cons, kinds_append, kinds_cons, Openings.behindAll_cons, Openings.most_cons,
      Openings.behind_leftParen, Openings.behindAll_append, Openings.most_append, hbehind, hmost,
      Openings.behindAll_cons, Openings.most_cons, Openings.behind_rightParen, List.length_cons]
    refine ⟨rfl, ?_⟩
    change max o.length (max (o.length + 1 + n) (max (o.length + 1) o.closed.length)) = _
    omega
  | @condition path k literal test negated t hk h =>
    have hle := o.length_closed_le
    have hfield : o.behind .field = o := rfl
    simp only [kinds, List.map_cons, List.map_nil, Openings.behindAll_cons, Openings.most_cons,
      hfield, Openings.behind_comparison hk, Openings.behind_literal h]
    refine ⟨rfl, ?_⟩
    change max o.length (max o.length (max o.length o.closed.length)) = _
    omega

/-! ## Two limits -/

/-- Results under two limits agree, unless the first one is that something is too
deep. -/
def Agrees {α : Type} (limit : Nat) (r r' : Except ParseError α) : Prop :=
  (∀ position, r ≠ .error (.tooDeep limit position)) → r' = r

namespace Agrees

variable {α β : Type} {limit : Nat} {r r' : Except ParseError α} {k k' : α → Except ParseError β}

theorem refl (limit : Nat) (r : Except ParseError α) : Agrees limit r r := fun _ => rfl

/-- What is too deep is too deep whatever would have come next. -/
theorem bind (h : Agrees limit r r') (hk : ∀ a, r = .ok a → Agrees limit (k a) (k' a)) :
    Agrees limit (r >>= k) (r' >>= k') := by
  intro hne
  have hr : r' = r := by
    refine h fun position hdeep => hne position ?_
    rw [hdeep]
    rfl
  rw [hr]
  cases r with
  | error e => rfl
  | ok a => exact hk a rfl hne

end Agrees

namespace Cursor

variable {limit greater : Nat} {s : Cursor}

theorem agrees_descend (h : limit ≤ greater) (s : Cursor) :
    Agrees limit (s.descend limit) (s.descend greater) := by
  intro hne
  rw [descend, descend]
  by_cases hopen : limit < s.opened + 1
  · rw [descend, if_pos hopen] at hne
    exact absurd rfl (hne _)
  · rw [if_neg hopen, if_neg (by omega)]

theorem agrees_joined (h : limit ≤ greater) (c : Connective) (left right : Parsed) :
    Agrees limit (left.joined c limit right) (left.joined c greater right) := by
  intro hne
  rw [Parsed.joined_eq, Parsed.joined_eq]
  by_cases hdeep : limit < max left.depth right.depth + 1
  · rw [Parsed.joined_eq, if_pos hdeep] at hne
    exact absurd rfl (hne _)
  · rw [if_neg hdeep, if_neg (by omega)]

theorem agrees_enter (h : limit ≤ greater) (s : Cursor) :
    Agrees limit (s.descend limit >>= advance) (s.descend greater >>= advance) :=
  (agrees_descend h s).bind fun m _ => .refl limit m.advance

/-- **Every part is read alike under both limits.** -/
theorem agrees_read (h : limit ≤ greater) :
    (∀ (c : Connective) (s : Cursor),
      Agrees limit (s.read limit (.chain c)) (s.read greater (.chain c))) ∧
    (∀ (c : Connective) (p : Parsed), Agrees limit (p.extended limit c) (p.extended greater c)) ∧
    (∀ (c : Connective) (s : Cursor),
      Agrees limit (s.read limit c.operand) (s.read greater c.operand)) ∧
    (∀ s : Cursor, Agrees limit (s.read limit .negation) (s.read greater .negation)) ∧
    (∀ s : Cursor, Agrees limit (s.read limit .term) (s.read greater .term)) := by
  -- both limits recur alike, as far as the smaller one gets
  refine chain.mutual_induct _ _ _ _ _ ?chain ?more ?last ?or ?and ?not ?negation ?group ?bad
    ?condition ?other
  case chain =>
    intro c s ihop ihext
    rw [read_chain, read_chain]
    exact ihop.bind fun first hfirst => ihext first (left_of_read hfirst)
  case more =>
    intro c p hk ihop ihext
    rw [Parsed.extended_of_eq hk, Parsed.extended_of_eq hk]
    refine (Agrees.refl limit p.cursor.advance).bind fun m hm => ?_
    have hleft : m.left < p.cursor.left := by
      have := left_pos hk c.kind_ne_finish
      rw [left_of_advance hm]
      omega
    refine (ihop m hleft).bind fun right hright => ?_
    refine (agrees_joined h c p right).bind fun both hboth => ?_
    have hcursor : both.cursor = right.cursor := of_plain_eq_ok (r := p.join c limit right) hboth
    exact ihext m hleft right (left_of_read hright) both hcursor
  case last =>
    intro c p hk
    rw [Parsed.extended_of_ne hk, Parsed.extended_of_ne hk]
    exact .refl limit _
  case or => exact fun s ih => ih
  case and => exact fun s ih => ih
  case not =>
    intro s hk ih
    rw [read_not hk, read_not hk]
    refine (agrees_enter h s).bind fun m hm => ?_
    exact (ih m (left_of_enter hm (left_pos hk (by decide))).2).bind fun p _ => .refl limit _
  case negation =>
    intro s hk ih
    rw [read_negation hk, read_negation hk]
    exact ih
  case group =>
    intro s hk ih
    rw [read_group hk, read_group hk]
    refine (agrees_enter h s).bind fun m hm => ?_
    exact (ih m (left_of_enter hm (left_pos hk (by decide))).2).bind fun p _ => .refl limit _
  case bad =>
    intro s _ hf e he
    rw [read_condition hf, read_condition hf]
    exact .refl limit _
  case condition =>
    intro s _ hf p hp
    rw [read_condition hf, read_condition hf]
    exact .refl limit _
  case other =>
    intro s hl hf
    rw [read_term hl hf, read_term hl hf]
    exact .refl limit _

theorem agrees_part (h : limit ≤ greater) (part : Part) (s : Cursor) :
    Agrees limit (s.read limit part) (s.read greater part) := by
  obtain ⟨hchain, -, -, hnegation, hterm⟩ := agrees_read h
  cases part with
  | chain c => exact hchain c s
  | negation => exact hnegation s
  | term => exact hterm s

end Cursor

/-! ## Whole texts -/

variable {limit greater : Nat}

theorem agrees_parseFilter (h : limit ≤ greater) (text : String) :
    Agrees limit (parseFilter limit text) (parseFilter greater text) := by
  by_cases hblank : allBlank text = true
  · rw [parseFilter, if_pos hblank, parseFilter, if_pos hblank]
    exact .refl limit _
  · rw [parseFilter_eq limit text hblank, parseFilter_eq greater text hblank]
    refine (Agrees.refl limit _).bind fun start _ => ?_
    exact (Cursor.agrees_part h (.chain .or) start).bind fun p _ => .refl limit _

/-- What is open at once in the text of a filter is what its derivation says. -/
theorem Derives.most_kinds {ts : List Token} {f : Filter} {n : Nat}
    (h : Derives (.chain .or) (ts.map Token.word) f n) :
    Openings.most [] (ts.map Token.kind) = n := by
  have hkinds : kinds (ts.map Token.word) = ts.map Token.kind := List.map_map
  rw [← hkinds, (h.openings (o := []) rfl).2, List.length_nil, Nat.zero_add]

/-- **Reading under a limit is reading under a greater one, within it.** The
same filters are read, as far as their trees are no deeper and no more
brackets and `not`s are open at once, and all else that is not too deep ends
in the same way. -/
theorem parseFilter_within_limit (text : String) (hlimit : 1 ≤ limit) (hle : limit ≤ greater) :
    (∀ f, parseFilter limit text = .ok (some f) ↔
      parseFilter greater text = .ok (some f) ∧ f.depth ≤ limit ∧
        Openings.most [] ((tokensOf text).tokens.map Token.kind) ≤ limit) ∧
    ((∀ position, parseFilter limit text ≠ .error (.tooDeep limit position)) →
      parseFilter greater text = parseFilter limit text) := by
  refine ⟨fun f => ⟨fun h => ?_, ?_⟩, agrees_parseFilter hle text⟩
  · obtain ⟨ts, stop, n, hts, hd, hfits⟩ := derives_of_parseFilter h
    have hgreater : parseFilter greater text = .ok (some f) := by
      refine (agrees_parseFilter hle text fun position hdeep => ?_).trans h
      rw [hdeep] at h
      cases h
    rw [hts, hd.most_kinds]
    obtain ⟨hopened, hdepth⟩ := hfits
    exact ⟨hgreater, by omega, by omega⟩
  · rintro ⟨h, hdepth, hmost⟩
    obtain ⟨ts, stop, n, hts, hd, -⟩ := derives_of_parseFilter h
    rw [hts, hd.most_kinds] at hmost
    exact (parseFilter_of_derives hts hd).1 ⟨by omega, le_max_of_le_right hdepth⟩

/-- A negated junction, which has a bracket and a `not` to its text. -/
def negatedPair : Filter :=
  .junction .or (.condition ⟨["a"], .isNull, false⟩) (.condition ⟨["b"], .isNull, true⟩) true

/-- The negated junction is read under a limit of two, and so under the greatest one,
in the same way. -/
theorem negatedPair_within_limit :
    1 ≤ 2 ∧ 2 ≤ UInt64.size - 1 ∧
      parseFilter 2 negatedPair.text = .ok (some negatedPair) ∧
      Openings.most [] ((tokensOf negatedPair.text).tokens.map Token.kind) ≤ 2 ∧
      parseFilter (UInt64.size - 1) negatedPair.text = parseFilter 2 negatedPair.text := by
  have hlimit : 2 ≤ UInt64.size - 1 := by decide
  have hwritable : ∀ c ∈ negatedPair.conditions, c.Writable := by decide
  have hread : parseFilter 2 negatedPair.text = .ok (some negatedPair) :=
    (Filter.parseFilter_text 2 hwritable).1 ⟨by decide, by decide⟩
  obtain ⟨htrees, hall⟩ := parseFilter_within_limit negatedPair.text (by decide) hlimit
  refine ⟨by decide, hlimit, hread, ((htrees negatedPair).1 hread).2.2, ?_⟩
  refine hall fun position hdeep => ?_
  rw [hread] at hdeep
  cases hdeep

end RecordQuery
