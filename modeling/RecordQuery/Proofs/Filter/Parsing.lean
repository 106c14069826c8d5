import RecordQuery.Proofs.Filter.Reading
/-!
# The parser reads the grammar, within its limit

Both directions of one equivalence. What the grammar derives is read as the
derived filter where it fits the limit, and refused as too deep where it does
not (`Derives.settles`); what is read has been derived, and fits
(`Cursor.accepts_of_read`). For whole texts they are `parseFilter_of_derives`
and `derives_of_parseFilter`.
-/

namespace RecordQuery

namespace Cursor

variable {s s' : Cursor} {k : TokenKind} {test : Test} {negated : Bool}

/-! ## Conditions -/

/-- A literal that suits its operator makes the test. -/
theorem test_of_suits {literal : Word} (h : Suits k literal test negated)
    (hs : s.current.word = literal) : s.test k = .ok (test, negated) := by
  have hkind : s.current.kind = literal.1 := congrArg Prod.fst hs
  have htext : s.current.text = literal.2 := congrArg Prod.snd hs
  have hpattern (hk : k = .like ∨ k = .unlike) : ¬ (k = .eq ∨ k = .ne) := by
    rcases hk with rfl | rfl <;> decide
  have horder (hk : k.isOrder) : ¬ (k = .eq ∨ k = .ne) ∧ ¬ (k = .like ∨ k = .unlike) := by
    rcases hk with rfl | rfl | rfl | rfl <;> decide
  rw [Cursor.test]
  cases h with
  | text t hk =>
    simp only [hkind, htext]
    rw [if_pos hk]
  | number t hk hv =>
    have hc : k.comparison = .eq := by rcases hk with rfl | rfl <;> rfl
    simp only [hkind, htext, hc]
    rw [if_pos hk, if_pos hv]
  | null t hk =>
    simp only [hkind]
    rw [if_pos hk]
  | pattern t hk =>
    simp only [hkind, htext]
    rw [if_neg (hpattern hk), if_pos hk]
  | order t hk hv =>
    simp only [hkind, htext]
    rw [if_neg (horder hk).1, if_neg (horder hk).2, if_pos hv]

/-- The literal of a test that was made suits its operator. -/
theorem suits_of_test (hk : k.isComparison = true) (h : s.test k = .ok (test, negated)) :
    Suits k s.current.word test negated := by
  rw [Cursor.test] at h
  by_cases heq : k = .eq ∨ k = .ne
  · have hc : k.comparison = .eq := by rcases heq with rfl | rfl <;> rfl
    rw [if_pos heq] at h
    cases hl : s.current.kind with
    | string =>
      rw [hl] at h
      cases h
      exact word_of_kind hl ▸ .text _ heq
    | number =>
      simp only [hl, hc] at h
      split at h
      · next hv =>
        cases h
        exact word_of_kind hl ▸ .number _ heq hv
      · cases h
    | null =>
      rw [hl] at h
      cases h
      exact word_of_kind hl ▸ .null _ heq
    | _ =>
      rw [hl] at h
      cases h
  · rw [if_neg heq] at h
    by_cases hlike : k = .like ∨ k = .unlike
    · rw [if_pos hlike] at h
      split at h
      · next hl =>
        cases h
        exact word_of_kind hl ▸ .pattern _ hlike
      · cases h
    · have horder : k.isOrder := by
        revert hk heq hlike
        cases k <;> decide
      rw [if_neg hlike] at h
      split at h
      · next hl =>
        simp only at h
        split at h
        · next hv =>
          cases h
          exact word_of_kind hl ▸ .order _ horder hv
        · cases h
      · cases h

/-- A field, an operator and a literal that suits it are a condition. -/
theorem condition_of_suits {path t : String} {literal : Word} (hk : k.isComparison = true)
    (h : Suits k literal test negated) (hb : s.Before [(.field, path), (k, t), literal] s') :
    s.condition = .ok ⟨.condition ⟨piecesOf '.' path, test, negated⟩, 1, s'⟩ := by
  obtain ⟨m, hm, hbm⟩ := hb.advance
  obtain ⟨m', hm', hbm'⟩ := hbm.advance
  obtain ⟨m'', hm'', hnil⟩ := hbm'.advance
  obtain rfl := hnil.eq_of_nil
  have htest := test_of_suits h hbm'.current
  rw [condition, hm, hb.text]
  simp only [bind, Except.bind, hbm.kind, hk, hm', htest, hm'', Bool.not_true, Bool.false_eq_true,
    if_false]
  rfl

/-- Every condition that is read is a field, an operator and a literal that suits it. -/
theorem derives_of_condition {p : Parsed} (hs : s.kind = .field) (h : s.condition = .ok p) :
    ∃ ws, s.Before ws p.cursor ∧ Derives .term ws p.tree 0 ∧ p.tree.depth = 1 ∧ p.depth = 1 := by
  rw [condition] at h
  obtain ⟨m, hm, h⟩ := bind_eq_ok h
  by_cases hk : m.kind.isComparison = true
  · have hneg : ¬ (!m.kind.isComparison) = true := by rw [hk]; decide
    simp only [if_neg hneg] at h
    obtain ⟨m', hm', h⟩ := bind_eq_ok h
    obtain ⟨⟨test, negated⟩, htest, h⟩ := bind_eq_ok h
    obtain ⟨m'', hm'', h⟩ := bind_eq_ok h
    cases h
    have hsuits := suits_of_test hk htest
    have hfinish : m.kind ≠ .finish := by
      intro hf
      rw [hf] at hk
      exact absurd hk (by decide)
    refine ⟨[(.field, s.current.text), m.current.word, m'.current.word], ?_,
      .condition _ hk hsuits, rfl, rfl⟩
    rw [← word_of_kind hs]
    exact (Before.of_advance hm (left_pos hs (by decide))).trans
      ((Before.of_advance hm' (left_pos rfl hfinish)).trans
        (Before.of_advance hm'' (left_pos rfl hsuits.kind_ne_finish)))
  · have hpos : (!m.kind.isComparison) = true := by rw [Bool.eq_false_iff.2 hk]; rfl
    simp only [if_pos hpos] at h
    cases h

end Cursor

/-! ## What is derived is read -/

/-- Whether a filter can be read under a limit, with `n` brackets and `not`s of
its own inside the ones that are open. Single conditions are never too deep. -/
def Fits (limit opened : Nat) (f : Filter) (n : Nat) : Prop :=
  opened + n ≤ limit ∧ f.depth ≤ max 1 limit

/-- What may not follow the words of a part: `and` continues the last operand
of a chain of `or`. -/
def Part.stopsAt : Part → TokenKind → Prop
  | .chain .or, k => k ≠ .and
  | _, _ => True

/-- Reading goes on behind the words of a chain. -/
def Part.continued (limit : Nat) : Part → Parsed → Except ParseError Parsed
  | .chain c, p => p.extended limit c
  | _, p => .ok p

/-- Between two places a part is read as a filter if it fits, and refused
otherwise. -/
def Cursor.Settles (limit : Nat) (part : Part) (s s' : Cursor) (f : Filter) (n : Nat) : Prop :=
  (Fits limit s.opened f n → s.read limit part = part.continued limit ⟨f, f.depth, s'⟩) ∧
    (¬ Fits limit s.opened f n → ∃ pos, s.read limit part = .error (.tooDeep limit pos))

/-- A junction fits if its sides do and it is not too deep itself. -/
theorem fits_junction {limit opened : Nat} {c : Connective} {l r : Filter} {negated : Bool}
    {m n : Nat} : Fits limit opened (.junction c l r negated) (max m n) ↔
      Fits limit opened l m ∧ Fits limit opened r n ∧ ¬ limit < max l.depth r.depth + 1 := by
  have := l.depth_pos
  have := r.depth_pos
  simp only [Fits, Filter.depth]
  omega

/-- One more bracket or `not` around a filter is one more that is open. -/
theorem fits_succ {limit opened : Nat} {f : Filter} {n : Nat} :
    Fits limit opened f (n + 1) ↔ Fits limit (opened + 1) f n := by
  simp only [Fits]
  omega

theorem fits_negate {limit opened : Nat} {f : Filter} {n : Nat} :
    Fits limit opened f.negate n ↔ Fits limit opened f n := by
  rw [Fits, Fits, f.depth_negate]

theorem Fits.not_lt {limit opened : Nat} {f : Filter} {n : Nat}
    (h : Fits limit (opened + 1) f n) : ¬ limit < opened + 1 := by
  have := h.1
  omega

namespace Cursor

variable {limit : Nat} {s m s' : Cursor} {ws : List Word}

/-- Opening a bracket or a `not` is refused at the limit. -/
theorem enter_of_lt (h : limit < s.opened + 1) :
    s.descend limit >>= advance = .error (.tooDeep limit s.current.position) := by
  rw [descend, if_pos h]
  rfl

/-- Below the limit it leads to the place behind it, with one more open. -/
theorem Before.enter {w : Word} (hb : s.Before (w :: ws) s') (h : ¬ limit < s.opened + 1) :
    ∃ m, s.descend limit >>= Cursor.advance = .ok m ∧
      m.Before ws { s' with opened := s.opened + 1 } := by
  rw [descend, if_neg h]
  exact (hb.reopen (s.opened + 1)).advance

/-- Closing it again leads back. -/
theorem Before.ascend_reopen (hb : s.Before ws s') :
    ascend { s' with opened := s.opened + 1 } = s' := by
  rw [ascend, Nat.add_sub_cancel, ← hb.opened]

theorem stopsAt_operand (c : Connective) (k : TokenKind) : c.operand.stopsAt k := by
  cases c <;> exact trivial

/-- Behind the operand of a chain nothing continues it but the chain. -/
theorem continued_operand {c : Connective} {p : Parsed} (h : (Part.chain c).stopsAt p.cursor.kind) :
    c.operand.continued limit p = .ok p := by
  cases c with
  | and => rfl
  | or => exact Parsed.extended_of_ne h

namespace Settles

variable {f l r : Filter} {a n : Nat}

theorem operand {c : Connective} (h : Settles limit c.operand s s' f n)
    (hstop : (Part.chain c).stopsAt s'.kind) : Settles limit (.chain c) s s' f n := by
  obtain ⟨hfits, hdeep⟩ := h
  constructor
  · intro hf
    rw [read_chain, hfits hf, continued_operand hstop]
    rfl
  · intro hf
    obtain ⟨pos, hpos⟩ := hdeep hf
    exact ⟨pos, by rw [read_chain, hpos]; rfl⟩

/-- Where the left side of a chain has been read, the right one is next. -/
theorem join {c : Connective} {us : List Word} {t : String} (hs : s.Before us m)
    (hl : Settles limit (.chain c) s m l a) (hm : m.Before ((c.kind, t) :: ws) s')
    (hr : ∀ {m' : Cursor}, m'.Before ws s' → Settles limit c.operand m' s' r n)
    (hstop : (Part.chain c).stopsAt s'.kind) :
    Settles limit (.chain c) s s' (.junction c l r false) (max a n) := by
  obtain ⟨m', hadvance, hm'⟩ := hm.advance
  have hopened : m'.opened = s.opened := hm'.opened.symm.trans (hm.opened.trans hs.opened)
  obtain ⟨hrfits, hrdeep⟩ := hr hm'
  rw [hopened] at hrfits hrdeep
  rw [Settles, fits_junction]
  by_cases hfl : Fits limit s.opened l a
  · -- the right side is read where the left one ends, and then they are joined
    have hread : s.read limit (.chain c) = (do
        let right ← m'.read limit c.operand
        let both ← Parsed.joined c limit ⟨l, l.depth, m⟩ right
        both.extended limit c) := by
      rw [hl.1 hfl, Part.continued, Parsed.extended_of_eq hm.kind, hadvance]
      rfl
    by_cases hfr : Fits limit s.opened r n
    · rw [hread, hrfits hfr, continued_operand hstop]
      simp only [bind, Except.bind, Parsed.joined_eq]
      by_cases hdepth : limit < max l.depth r.depth + 1
      · rw [if_pos hdepth]
        exact ⟨fun h => absurd hdepth h.2.2, fun _ => ⟨_, rfl⟩⟩
      · rw [if_neg hdepth, Filter.depth, Nat.add_comm 1]
        exact ⟨fun _ => rfl, fun h => absurd ⟨hfl, hfr, hdepth⟩ h⟩
    · obtain ⟨pos, hpos⟩ := hrdeep hfr
      rw [hread, hpos]
      exact ⟨fun h => absurd h.2.1 hfr, fun _ => ⟨pos, rfl⟩⟩
  · -- a refusal of the left side is the answer already
    exact ⟨fun h => absurd h.1 hfl, fun _ => hl.2 hfl⟩

theorem not {t : String} (hb : s.Before ((.not, t) :: ws) s')
    (h : ∀ {m : Cursor}, m.Before ws { s' with opened := s.opened + 1 } → m.opened ≤ limit →
      Settles limit .negation m { s' with opened := s.opened + 1 } f n) :
    Settles limit .negation s s' f.negate (n + 1) := by
  rw [Settles, fits_negate, fits_succ, read_not hb.kind]
  by_cases hopen : limit < s.opened + 1
  · rw [enter_of_lt hopen]
    exact ⟨fun hf => absurd hopen hf.not_lt, fun _ => ⟨_, rfl⟩⟩
  · obtain ⟨m, hm, hbm⟩ := hb.enter hopen
    have hopened : m.opened = s.opened + 1 := hbm.opened.symm
    obtain ⟨hfits, hdeep⟩ := h hbm (by omega)
    rw [hopened] at hfits hdeep
    rw [hm]
    constructor
    · intro hf
      simp only [bind, Except.bind, hfits hf, Part.continued, hb.ascend_reopen, f.depth_negate]
      rfl
    · intro hf
      obtain ⟨pos, hpos⟩ := hdeep hf
      exact ⟨pos, by simp only [bind, Except.bind, hpos]⟩

theorem group {t t' : String}
    (hb : s.Before ((.leftParen, t) :: (ws ++ [(.rightParen, t')])) s')
    (h : ∀ {m m' : Cursor}, m.Before ws m' → m.opened ≤ limit → m'.kind = .rightParen →
      Settles limit (.chain .or) m m' f n) :
    Settles limit .term s s' f (n + 1) := by
  rw [Settles, fits_succ, read_group hb.kind]
  by_cases hopen : limit < s.opened + 1
  · rw [enter_of_lt hopen]
    exact ⟨fun hf => absurd hopen hf.not_lt, fun _ => ⟨_, rfl⟩⟩
  · obtain ⟨m, hm, hbm⟩ := hb.enter hopen
    have hopened : m.opened = s.opened + 1 := hbm.opened.symm
    obtain ⟨m', hm', hclose⟩ := hbm.split
    obtain ⟨hfits, hdeep⟩ := h hm' (by omega) hclose.kind
    obtain ⟨after, hafter, hnil⟩ := hclose.advance
    obtain rfl := hnil.eq_of_nil
    have hne : m'.kind ≠ Connective.or.kind := by rw [hclose.kind]; exact nofun
    rw [hopened] at hfits hdeep
    rw [hm]
    constructor
    · intro hf
      simp only [bind, Except.bind, hfits hf, Part.continued]
      rw [Parsed.extended_of_ne hne]
      simp only [if_pos hclose.kind, hafter, hb.ascend_reopen]
      rfl
    · intro hf
      obtain ⟨pos, hpos⟩ := hdeep hf
      exact ⟨pos, by simp only [bind, Except.bind, hpos]⟩

end Settles

end Cursor

namespace Derives

variable {limit : Nat} {s s' : Cursor} {ws : List Word} {f : Filter} {n : Nat}

/-- A term starts with a bracket or a field. -/
theorem kind_of_term (h : Derives .term ws f n) (hb : s.Before ws s') : s.kind ≠ .not := by
  cases h with
  | group t t' h => rw [hb.kind]; exact nofun
  | condition t hk h => rw [hb.kind]; exact nofun

/-- **What the grammar derives is read, within the limit, and refused as too
deep beyond it.** -/
theorem settles {part : Part} (h : Derives part ws f n) (hb : s.Before ws s')
    (hopened : s.opened ≤ limit) (hstop : part.stopsAt s'.kind) :
    Cursor.Settles limit part s s' f n := by
  induction h generalizing s s' with
  | operand h ih => exact (ih hb hopened (Cursor.stopsAt_operand _ _)).operand hstop
  | @join c us ws l r m n t hl hr ihl ihr =>
    obtain ⟨m, hbl, hbr⟩ := hb.split
    -- the chain's own connective follows its left side, so that stops there
    have hm : (Part.chain c).stopsAt m.kind := by
      rw [hbr.kind]
      cases c with
      | and => exact trivial
      | or => exact nofun
    refine .join hbl (ihl hbl hopened hm) hbr (fun {m'} hbm => ?_) hstop
    refine ihr hbm ?_ (Cursor.stopsAt_operand _ _)
    rwa [← hbm.opened, hb.opened]
  | not t h ih => exact .not hb fun hbm hm => ih hbm hm trivial
  | term h ih =>
    have hread : s.read limit .negation = s.read limit .term :=
      Cursor.read_negation (h.kind_of_term hb)
    rw [Cursor.Settles, hread]
    exact ih hb hopened trivial
  | group t t' h ih =>
    refine .group hb fun hbm hm hk => ih hbm hm ?_
    rw [hk]
    exact nofun
  | condition t hk h =>
    have hread : s.read limit .term = s.condition := Cursor.read_condition hb.kind
    rw [Cursor.Settles, hread, Cursor.condition_of_suits hk h hb]
    exact ⟨fun _ => rfl, fun hf => absurd ⟨hopened, le_max_left 1 limit⟩ hf⟩

end Derives

/-! ## What is read is derived -/

namespace Cursor

variable {limit : Nat} {s m : Cursor} {p q : Parsed} {c : Connective}

/-- What has been read was derived from the words behind a place, and fits. -/
structure Accepted (limit : Nat) (part : Part) (s : Cursor) (p : Parsed) (ws : List Word)
    (n : Nat) : Prop where
  before : s.Before ws p.cursor
  derives : Derives part ws p.tree n
  fits : Fits limit s.opened p.tree n
  depth : p.depth = p.tree.depth

/-- What has been read was derived from some words. -/
def Accepts (limit : Nat) (part : Part) (s : Cursor) (p : Parsed) : Prop :=
  ∃ ws n, Accepted limit part s p ws n

theorem enter_eq_ok (h : s.descend limit >>= advance = .ok m) (hs : 0 < s.left) :
    ¬ limit < s.opened + 1 ∧ Before { s with opened := s.opened + 1 } [s.current.word] m := by
  by_cases hopen : limit < s.opened + 1
  · rw [enter_of_lt hopen] at h
    cases h
  · rw [descend, if_neg hopen] at h
    exact ⟨hopen, Before.of_advance h hs⟩

theorem left_of_enter (h : s.descend limit >>= advance = .ok m) (hs : 0 < s.left) :
    m.opened ≤ limit ∧ m.left < s.left := by
  obtain ⟨hopen, hb⟩ := enter_eq_ok h hs
  obtain ⟨ts, hmap, hts⟩ := hb.ahead
  have hlen := congrArg List.length hts
  have hone := congrArg List.length hmap
  rw [List.length_append] at hlen
  rw [List.length_map, List.length_singleton] at hone
  have hopened : m.opened = s.opened + 1 := hb.opened
  simp only [left]
  change s.ahead.length = _ at hlen
  omega

/-- The words read inside a bracket or `not`, after closing it. -/
theorem Before.close {ws : List Word} (h : Before { s with opened := s.opened + 1 } ws m) :
    s.Before ws m.ascend :=
  ⟨h.ahead, h.stop, by rw [ascend, h.opened]; exact Nat.add_sub_cancel _ _, h.clear⟩

namespace Accepts

theorem join (hk : p.cursor.kind = c.kind) (hm : p.cursor.advance = .ok m)
    (hl : Accepts limit (.chain c) s p) (hr : Accepts limit c.operand m q) {both : Parsed}
    (hj : p.joined c limit q = .ok both) : Accepts limit (.chain c) s both := by
  obtain ⟨us, a, hl⟩ := hl
  obtain ⟨ws, b, hr⟩ := hr
  rw [Parsed.joined_eq, hl.depth, hr.depth] at hj
  split at hj
  · cases hj
  · next hdepth =>
    cases hj
    have hstep := Before.of_advance hm (left_pos hk c.kind_ne_finish)
    rw [word_of_kind hk] at hstep
    have hopened : m.opened = s.opened := hstep.opened.trans hl.before.opened
    refine ⟨us ++ (c.kind, p.cursor.current.text) :: ws, max a b,
      hl.before.trans (hstep.trans hr.before), .join _ hl.derives hr.derives, ?_, ?_⟩
    · exact fits_junction.2 ⟨hl.fits, hopened ▸ hr.fits, hdepth⟩
    · exact Nat.add_comm _ _

theorem operand {part part' : Part} (h : Accepts limit part s p)
    (hd : ∀ {ws n}, Derives part ws p.tree n → Derives part' ws p.tree n) :
    Accepts limit part' s p := by
  obtain ⟨ws, n, h⟩ := h
  exact ⟨ws, n, h.before, hd h.derives, h.fits, h.depth⟩

theorem not (hk : s.kind = .not) (hm : s.descend limit >>= advance = .ok m)
    (h : Accepts limit .negation m p) :
    Accepts limit .negation s ⟨p.tree.negate, p.depth, p.cursor.ascend⟩ := by
  obtain ⟨hopen, hb⟩ := enter_eq_ok hm (left_pos hk (by decide))
  obtain ⟨ws, n, h⟩ := h
  have hopened : m.opened = s.opened + 1 := hb.opened
  rw [word_of_kind hk] at hb
  refine ⟨_, n + 1, (hb.trans h.before).close, .not _ h.derives, ?_, ?_⟩
  · rw [fits_negate, fits_succ]
    exact hopened ▸ h.fits
  · rw [h.depth, Filter.depth_negate]

theorem group (hk : s.kind = .leftParen) (hm : s.descend limit >>= advance = .ok m)
    (h : Accepts limit (.chain .or) m p) (hr : p.cursor.kind = .rightParen) {after : Cursor}
    (ha : p.cursor.advance = .ok after) :
    Accepts limit .term s ⟨p.tree, p.depth, after.ascend⟩ := by
  obtain ⟨hopen, hb⟩ := enter_eq_ok hm (left_pos hk (by decide))
  obtain ⟨ws, n, h⟩ := h
  have hopened : m.opened = s.opened + 1 := hb.opened
  have hclose := Before.of_advance ha (left_pos hr (by decide))
  rw [word_of_kind hk] at hb
  rw [word_of_kind hr] at hclose
  refine ⟨_, n + 1, (hb.trans (h.before.trans hclose)).close, .group _ _ h.derives, ?_, h.depth⟩
  rw [fits_succ]
  exact hopened ▸ h.fits

end Accepts

/-- **What is read is what the grammar derives.** -/
theorem accepts_of_read (limit : Nat) :
    (∀ (c : Connective) (s : Cursor), s.opened ≤ limit → ∀ p,
      s.read limit (.chain c) = .ok p → Accepts limit (.chain c) s p) ∧
    (∀ (c : Connective) (p : Parsed), ∀ q, p.extended limit c = .ok q → ∀ s, s.opened ≤ limit →
      Accepts limit (.chain c) s p → Accepts limit (.chain c) s q) ∧
    (∀ (c : Connective) (s : Cursor), s.opened ≤ limit → ∀ p,
      s.read limit c.operand = .ok p → Accepts limit c.operand s p) ∧
    (∀ s : Cursor, s.opened ≤ limit → ∀ p,
      s.read limit .negation = .ok p → Accepts limit .negation s p) ∧
    (∀ s : Cursor, s.opened ≤ limit → ∀ p,
      s.read limit .term = .ok p → Accepts limit .term s p) := by
  -- along the recursion of the parser, one case for each of its branches
  refine chain.mutual_induct _ _ _ _ _ ?chain ?more ?last ?or ?and ?not ?negation ?group ?bad
    ?condition ?other
  case chain =>
    intro c s ihop ihext hs p h
    rw [read_chain] at h
    obtain ⟨first, hfirst, h⟩ := bind_eq_ok h
    exact ihext first (left_of_read hfirst) p h s hs ((ihop hs first hfirst).operand .operand)
  case more =>
    intro c p hk ihop ihext q h s hs hacc
    rw [Parsed.extended_of_eq hk] at h
    obtain ⟨m, hm, h⟩ := bind_eq_ok h
    obtain ⟨right, hright, h⟩ := bind_eq_ok h
    obtain ⟨both, hboth, h⟩ := bind_eq_ok h
    have hleft : m.left < p.cursor.left := by
      have := left_pos hk c.kind_ne_finish
      rw [left_of_advance hm]
      omega
    have hopened : m.opened = s.opened := by
      obtain ⟨us, n, hacc⟩ := hacc
      rw [(of_advance hm).1]
      exact hacc.before.opened
    -- the chain goes on behind the right side, with the tree read so far
    have hcursor : both.cursor = right.cursor := of_plain_eq_ok (r := p.join c limit right) hboth
    refine ihext m hleft right (left_of_read hright) both hcursor q h s hs ?_
    exact hacc.join hk hm (ihop m hleft (by omega) right hright) hboth
  case last =>
    intro c p hk q h s hs hacc
    rw [Parsed.extended_of_ne hk] at h
    cases h
    exact hacc
  case or => exact fun s ih => ih
  case and => exact fun s ih => ih
  case not =>
    intro s hk ih hs p h
    rw [read_not hk] at h
    obtain ⟨m, hm, h⟩ := bind_eq_ok h
    obtain ⟨q, hq, h⟩ := bind_eq_ok h
    cases h
    obtain ⟨hopened, hleft⟩ := left_of_enter hm (left_pos hk (by decide))
    exact .not hk hm (ih m hleft hopened q hq)
  case negation =>
    intro s hk ih hs p h
    rw [read_negation hk] at h
    exact (ih hs p h).operand .term
  case group =>
    intro s hk ih hs p h
    rw [read_group hk] at h
    obtain ⟨m, hm, h⟩ := bind_eq_ok h
    obtain ⟨q, hq, h⟩ := bind_eq_ok h
    split at h
    · next hr =>
      obtain ⟨after, ha, h⟩ := bind_eq_ok h
      cases h
      obtain ⟨hopened, hleft⟩ := left_of_enter hm (left_pos hk (by decide))
      exact .group hk hm (ih m hleft hopened q hq) hr ha
    · cases h
  case bad =>
    intro s _ hf e he hs p h
    rw [read_condition hf, he] at h
    cases h
  case condition =>
    intro s _ hf q hq hs p h
    rw [read_condition hf] at h
    obtain ⟨ws, hb, hd, hone, hdepth⟩ := derives_of_condition hf h
    exact ⟨ws, 0, hb, hd, ⟨hs, hone ▸ le_max_left 1 limit⟩, hdepth.trans hone.symm⟩
  case other =>
    intro s hl hf hs p h
    rw [read_term hl hf] at h
    cases h

theorem Accepts.of_read {part : Part} (hs : s.opened ≤ limit) (h : s.read limit part = .ok p) :
    Accepts limit part s p := by
  obtain ⟨hchain, -, -, hnegation, hterm⟩ := accepts_of_read limit
  cases part with
  | chain c => exact hchain c s hs p h
  | negation => exact hnegation s hs p h
  | term => exact hterm s hs p h

end Cursor

/-! ## Whole texts -/

variable {limit : Nat} {text : String} {ts : List Token} {stop : Nat} {f : Filter} {n : Nat}

theorem parseFilter_eq (limit : Nat) (text : String) (hb : ¬ allBlank text = true) :
    parseFilter limit text = (do
      let start ← Cursor.ofTokens (tokensOf text)
      let p ← start.read limit (.chain .or)
      if p.cursor.kind = .finish then return some p.tree
      else throw (p.cursor.unexpected [.and, .or, .finish])) := by
  rw [parseFilter, if_neg hb]
  show (Cursor.ofTokens (tokensOf text) >>= _) = _
  congr 1
  funext start
  rw [Cursor.read]
  cases start.chain limit .or with
  | error e => rfl
  | ok p => rfl

/-- The tokens of a whole text are read as the filter they derive, up to the
end. -/
theorem Derives.settles_to_end (limit stop : Nat)
    (hd : Derives (.chain .or) (ts.map Token.word) f n) :
    (Fits limit 0 f n → Cursor.read limit (.chain .or) ⟨ts, .ok stop, 0⟩ =
        .ok ⟨f, f.depth, ⟨[], .ok stop, 0⟩⟩) ∧
      (¬ Fits limit 0 f n → ∃ pos, Cursor.read limit (.chain .or) ⟨ts, .ok stop, 0⟩ =
        .error (.tooDeep limit pos)) := by
  have hb := Cursor.Before.whole ts stop 0
  -- the end of the text continues neither chain
  have hkind : Cursor.kind ⟨[], .ok stop, 0⟩ = .finish := rfl
  have hand : (Part.chain .or).stopsAt (Cursor.kind ⟨[], .ok stop, 0⟩) := by
    rw [hkind]
    exact Connective.and.kind_ne_finish.symm
  have hne : Cursor.kind ⟨[], .ok stop, 0⟩ ≠ Connective.or.kind := by
    rw [hkind]
    exact Connective.or.kind_ne_finish.symm
  obtain ⟨hfits, hdeep⟩ : Cursor.Settles limit (.chain .or) _ _ f n :=
    hd.settles hb (Nat.zero_le _) hand
  rw [Part.continued, Parsed.extended_of_ne hne] at hfits
  exact ⟨hfits, hdeep⟩

/-- **A text is read if its tokens are derived.** As far as they fit; otherwise
it is refused as too deep. -/
theorem parseFilter_of_derives (ht : tokensOf text = ⟨ts, .ok stop⟩)
    (hd : Derives (.chain .or) (ts.map Token.word) f n) :
    (Fits limit 0 f n → parseFilter limit text = .ok (some f)) ∧
      (¬ Fits limit 0 f n → ∃ pos, parseFilter limit text = .error (.tooDeep limit pos)) := by
  have hblank : ¬ allBlank text = true := by
    intro hb
    have hnil := tokensOf_of_allBlank hb
    rw [ht] at hnil
    exact hd.ne_nil (List.map_eq_nil_iff.2 hnil)
  have hstart : Cursor.ofTokens (tokensOf text) = .ok ⟨ts, .ok stop, 0⟩ := by
    rw [ht]
    exact Cursor.ofTokens_of_stop rfl
  obtain ⟨hfits, hdeep⟩ := hd.settles_to_end limit stop
  rw [parseFilter_eq limit text hblank, hstart]
  simp only [bind, Except.bind]
  constructor
  · intro hf
    rw [hfits hf]
    rfl
  · intro hf
    obtain ⟨pos, hpos⟩ := hdeep hf
    rw [hpos]
    exact ⟨pos, rfl⟩

/-- **The tokens of a filter that is read are derived.** -/
theorem derives_of_parseFilter (h : parseFilter limit text = .ok (some f)) :
    ∃ ts stop n, tokensOf text = ⟨ts, .ok stop⟩ ∧
      Derives (.chain .or) (ts.map Token.word) f n ∧ Fits limit 0 f n := by
  have hblank : ¬ allBlank text = true := by
    intro hb
    rw [parseFilter, if_pos hb] at h
    cases h
  rw [parseFilter_eq limit text hblank] at h
  obtain ⟨start, hstart, h⟩ := bind_eq_ok h
  obtain ⟨p, hp, h⟩ := bind_eq_ok h
  split at h
  · next hk =>
    cases h
    obtain ⟨rfl, hclear⟩ := Cursor.of_moveTo hstart
    obtain ⟨ws, n, hacc⟩ := Cursor.Accepts.of_read (Nat.zero_le limit) hp
    obtain ⟨ts, rfl, hts⟩ := hacc.before.ahead
    -- the end is no token, so none is left before it
    have hnil : p.cursor.ahead = [] := by
      refine List.eq_nil_iff_forall_not_mem.2 fun t ht => ?_
      obtain ⟨u, us, hus⟩ := List.exists_cons_of_ne_nil (List.ne_nil_of_mem ht)
      have hu : u ∈ (tokensOf text).tokens := by
        change (tokensOf text).tokens = _ at hts
        rw [hts, hus]
        exact List.mem_append_right _ List.mem_cons_self
      refine (Scanner.exists_read_of_mem_tokens hu).1 ?_
      rw [← hk, Cursor.kind, Cursor.current, hus]
    obtain ⟨stop, hstop⟩ := hacc.before.clear hnil
    rw [hacc.before.stop] at hstop
    rw [hnil, List.append_nil] at hts
    refine ⟨ts, stop, n, ?_, hacc.derives, hacc.fits⟩
    rw [← hts, ← hstop]
  · cases h

end RecordQuery
