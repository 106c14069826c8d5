import RecordQuery.Proofs.Filter.Canonical
/-!
# Which filters survive their own text

A filter is read back from its text, under a limit of twice its depth, exactly
when its conditions can be written, and only such filters are ever read
(`reads_back_iff_writable`). Under the limit that it was read with, a filter may
fail to be read back: the limit is compared with the depth of the tree and with
the brackets and `not`s of the text that was read, but the filter's own text has
a bracket for every connective. What decides is the nesting of that text
(`reads_back_iff_nesting_le`), and a long chain, which needs no brackets where
it is read, can be nested too deeply where it is written (`parseFilter_chainText`).
-/

namespace RecordQuery

/-- **Exactly the filters that can be written are read back.** And nothing else
is ever read, whatever the text and the limit. -/
theorem reads_back_iff_writable :
    (∀ (f : Filter) (limit : Nat), 2 * f.depth ≤ limit →
      ((∃ g, parseFilter limit f.text = .ok (some g) ∧ f.same g = true) ↔
        ∀ c ∈ f.conditions, c.Writable)) ∧
    (∀ (limit : Nat) (text : String) (g : Filter), parseFilter limit text = .ok (some g) →
      ∀ c ∈ g.conditions, c.Writable) := by
  refine ⟨fun f limit hlimit => ⟨?_, fun h => ?_⟩, fun limit text g h => writable_of_parseFilter h⟩
  · rintro ⟨g, hg, hsame⟩
    exact Filter.writable_of_same hsame (writable_of_parseFilter hg)
  · have hnesting := f.nesting_lt
    have hfits : Fits limit 0 f f.nesting := by
      refine ⟨by omega, ?_⟩
      rw [le_max_iff]
      omega
    exact ⟨f, (Filter.parseFilter_text limit h).1 hfits, Filter.same_self h⟩

/-- A negated junction of a test for a text with a quote in it and one for a number. -/
def quotedOrLow : Filter :=
  .junction .or (.condition ⟨["author", "name"], .equals "O'Brien", true⟩)
    (.condition ⟨["rating"], .compares .lt ⟨false, 0x4012000000000000, by decide⟩, false⟩) true

/-- The negated junction is read back from its text, as all its conditions can be
written. -/
theorem quotedOrLow_read_back :
    2 * quotedOrLow.depth ≤ 4 ∧ (∀ c ∈ quotedOrLow.conditions, c.Writable) ∧
      quotedOrLow.text = "not (author.name != \"O'Brien\" or rating < 4.5)" ∧
      ∃ g, parseFilter 4 quotedOrLow.text = .ok (some g) ∧ quotedOrLow.same g = true := by
  have hdepth : 2 * quotedOrLow.depth ≤ 4 := by decide
  have hwritable : ∀ c ∈ quotedOrLow.conditions, c.Writable := by decide
  refine ⟨hdepth, hwritable, by decide +kernel, ?_⟩
  exact (reads_back_iff_writable.1 quotedOrLow 4 hdepth).2 hwritable

/-- A filter that has been read is not too deep itself, so its text fits the
limit by its nesting alone. -/
theorem fits_iff_nesting_le {limit : Nat} {text : String} {f : Filter}
    (h : parseFilter limit text = .ok (some f)) :
    Fits limit 0 f f.nesting ↔ f.nesting ≤ limit := by
  obtain ⟨-, -, -, -, -, -, hdepth⟩ := derives_of_parseFilter h
  rw [Fits, Nat.zero_add]
  exact and_iff_left hdepth

theorem tooDeep_of_lt_nesting {limit : Nat} {text : String} {f : Filter}
    (h : parseFilter limit text = .ok (some f)) (hlt : limit < f.nesting) :
    ∃ pos, parseFilter limit f.text = .error (.tooDeep limit pos) := by
  refine (Filter.parseFilter_text limit (writable_of_parseFilter h)).2 ?_
  rw [fits_iff_nesting_le h]
  exact Nat.not_le.2 hlt

/-- **Under the limit it was read with, a filter is read back exactly when its
text is not nested more deeply than that.** -/
theorem reads_back_iff_nesting_le {limit : Nat} {text : String} {f : Filter}
    (h : parseFilter limit text = .ok (some f)) :
    ((∃ g, parseFilter limit f.text = .ok (some g) ∧ f.same g = true) ↔ f.nesting ≤ limit) ∧
      (limit < f.nesting → ∃ pos, parseFilter limit f.text = .error (.tooDeep limit pos)) := by
  have hwritable := writable_of_parseFilter h
  refine ⟨⟨?_, fun hle => ⟨f, ?_, Filter.same_self hwritable⟩⟩, tooDeep_of_lt_nesting h⟩
  · rintro ⟨g, hg, -⟩
    by_contra hle
    obtain ⟨pos, hpos⟩ := tooDeep_of_lt_nesting h (Nat.lt_of_not_le hle)
    rw [hpos] at hg
    cases hg
  · exact (Filter.parseFilter_text limit hwritable).1 ((fits_iff_nesting_le h).2 hle)

/-! ## Long chains -/

namespace Filter

/-- A filter, and a condition repeated behind it. -/
def followedBy (f : Filter) (c : Condition) : Nat → Filter
  | 0 => f
  | k + 1 => (f.followedBy c k).and (.condition c)

/-- How a chain is written without brackets. -/
def chainText (f : Filter) (c : Condition) : Nat → String
  | 0 => f.text
  | k + 1 => f.chainText c k ++ " and " ++ c.text

variable {f : Filter} {c : Condition}

theorem depth_followedBy (k : Nat) : (f.followedBy c k).depth = f.depth + k := by
  induction k with
  | zero => rfl
  | succ k ih =>
    have := f.depth_pos
    rw [followedBy, Filter.and, depth, depth, ih]
    omega

theorem mem_conditions_followedBy {d : Condition} {k : Nat}
    (h : d ∈ (f.followedBy c k).conditions) : d ∈ f.conditions ∨ d = c := by
  induction k with
  | zero => exact .inl h
  | succ k ih => exact (List.mem_append.1 h).elim ih fun hd => .inr (List.mem_singleton.1 hd)

theorem nesting_followedBy (hc : c.inFront = false) (k : Nat) :
    (f.followedBy c k).nesting = f.nesting + k := by
  induction k with
  | zero => rfl
  | succ k ih =>
    rw [followedBy, Filter.and, nesting, nesting, ih, hc]
    simp only [Bool.false_eq_true, if_false]
    omega

/-- A chain has the words of its operands, and no bracket of its own. -/
theorem derives_chainText (hf : ∀ c ∈ f.conditions, c.Writable) (hc : c.Writable)
    (hfront : c.inFront = false) (k : Nat) :
    ∃ ws, Spells (f.chainText c k).toList ws ∧
      Derives (.chain .and) ws (f.followedBy c k) f.nesting := by
  induction k with
  | zero => exact ⟨f.words, spells_text hf, .operand (derives_words hf)⟩
  | succ k ih =>
    obtain ⟨ws, hspells, hd⟩ := ih
    have hcond := Condition.derives_words hc
    rw [hfront] at hcond
    refine ⟨_, ?_, max_eq_left (Nat.zero_le f.nesting) ▸ hd.join "and" hcond⟩
    have htext : (f.chainText c (k + 1)).toList = (f.chainText c k).toList ++
        ' ' :: ("and".toList ++ ' ' :: c.text.toList) := by
      simp [chainText]
    rw [htext]
    exact hspells.blank ((spells_keyword .and).blank (Condition.spells_text hc))

end Filter

/-- **A chain is read as far as its depth goes**, however many brackets its
operands will get. -/
theorem parseFilter_chainText {limit : Nat} {f : Filter} {c : Condition} {k : Nat}
    (hf : ∀ c ∈ f.conditions, c.Writable) (hc : c.Writable) (hfront : c.inFront = false)
    (hn : f.nesting ≤ limit) (hk : f.depth + k ≤ limit) :
    parseFilter limit (f.chainText c k) = .ok (some (f.followedBy c k)) := by
  obtain ⟨ws, hspells, hd⟩ := Filter.derives_chainText hf hc hfront k
  obtain ⟨ts, stop, hts, rfl⟩ := hspells.tokensOf
  refine (parseFilter_of_derives hts hd.of_chain).1 ⟨by omega, ?_⟩
  rw [Filter.depth_followedBy]
  exact le_max_of_le_right hk

/-- A test that any text of one is read as. -/
def isNullTest : Condition := ⟨["a"], .isNull, false⟩

/-- A negated chain inside a negated chain: two brackets and two `not`s on two
levels of the tree. -/
def negatedChains : Filter :=
  .junction .and (.junction .and (.condition isNullTest) (.condition isNullTest) true)
    (.condition isNullTest) true

/-- The negated chains take up three levels of the default limit. -/
theorem parseFilter_negatedChains {k : Nat} (hk : k ≤ 61) :
    parseFilter defaultDepth (negatedChains.chainText isNullTest k) =
      .ok (some (negatedChains.followedBy isNullTest k)) := by
  have hchains : ∀ c ∈ negatedChains.conditions, c.Writable := by decide
  have htest : isNullTest.Writable := by decide
  have hnesting : negatedChains.nesting ≤ defaultDepth := by decide
  have hdepth : negatedChains.depth + k ≤ defaultDepth := by
    have hthree : negatedChains.depth = 3 := rfl
    have hlimit : defaultDepth = 64 := rfl
    omega
  exact parseFilter_chainText hchains htest rfl hnesting hdepth

/-- With as many conditions behind them as the default limit allows, the negated
chains are read, but not from the text of what was read. -/
theorem negatedChains_not_read_back :
    parseFilter defaultDepth (negatedChains.chainText isNullTest 61) =
        .ok (some (negatedChains.followedBy isNullTest 61)) ∧
      ¬ ∃ g, parseFilter defaultDepth (negatedChains.followedBy isNullTest 61).text =
          .ok (some g) ∧
        (negatedChains.followedBy isNullTest 61).same g = true := by
  have hread := parseFilter_negatedChains (Nat.le_refl 61)
  -- the depth is at the limit, and the nesting one past it
  refine ⟨hread, ?_⟩
  rintro ⟨g, hg, -⟩
  have hnesting : defaultDepth < (negatedChains.followedBy isNullTest 61).nesting := by
    rw [Filter.nesting_followedBy rfl]
    decide
  obtain ⟨pos, hpos⟩ := tooDeep_of_lt_nesting hread hnesting
  rw [hpos] at hg
  cases hg

/-- With one condition fewer, the negated chains are read back. -/
theorem negatedChains_read_back :
    parseFilter defaultDepth (negatedChains.chainText isNullTest 60) =
        .ok (some (negatedChains.followedBy isNullTest 60)) ∧
      ∃ g, parseFilter defaultDepth (negatedChains.followedBy isNullTest 60).text =
          .ok (some g) ∧
        (negatedChains.followedBy isNullTest 60).same g = true := by
  have hread := parseFilter_negatedChains (Nat.le_succ 60)
  refine ⟨hread, (reads_back_iff_nesting_le hread).1.2 ?_⟩
  rw [Filter.nesting_followedBy rfl]
  decide

example : negatedChains.text = "not (not (a == null and a == null) and a == null)" := by decide

end RecordQuery
