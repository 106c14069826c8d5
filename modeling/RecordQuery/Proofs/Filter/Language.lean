import RecordQuery.Proofs.Filter.Canonical
/-!
# The language of filters

The texts that are read as filters are the sentences of the grammar, as soon as
the limit is out of the text's reach: a text opens no more brackets and `not`s,
and nests no more connectives, than it has characters
(`Derives.fits`, `Scanner.length_tokens_le`). The grammar is unambiguous, since
the parser has only one answer for the words that two derivations share
(`Denotes.unique`).

    filter    = and-chain, { "or", and-chain }
    and-chain = negation, { "and", negation }
    negation  = "not", negation | term
    term      = "(", filter, ")" | field, comparison, literal
-/

namespace RecordQuery

/-- The filter that words stand for, however much of it is open at once. -/
def Denotes (ws : List Word) (f : Filter) : Prop := ∃ n, Derives (.chain .or) ws f n

/-! ## Limits that are out of reach -/

namespace Derives

variable {part : Part} {ws : List Word} {f : Filter} {n : Nat}

/-- Every bracket, `not` and connective is a word, and so are the fields. -/
theorem nesting_add_depth_le (h : Derives part ws f n) : n + f.depth ≤ ws.length := by
  induction h with
  | operand _ ih => exact ih
  | term _ ih => exact ih
  | join t _ _ ihl ihr =>
    rw [Filter.depth, List.length_append, List.length_cons]
    omega
  | not t _ ih =>
    rw [Filter.depth_negate, List.length_cons]
    omega
  | group t t' _ ih =>
    rw [List.length_cons, List.length_append, List.length_singleton]
    omega
  | condition t hk _ => exact Nat.le_add_left 1 2

theorem fits {limit : Nat} (h : Derives part ws f n) (hws : ws.length ≤ limit) :
    Fits limit 0 f n := by
  have := h.nesting_add_depth_le
  refine ⟨by omega, le_max_of_le_right (by omega)⟩

end Derives

/-- There are no more tokens than characters. -/
theorem Scanner.length_tokens_le (s : Scanner) : s.tokens.tokens.length ≤ s.rest.length := by
  induction s using tokens.induct with
  | case1 s e s' hs =>
    rw [tokens_of_error hs]
    exact Nat.zero_le _
  | case2 s t s' hs ht =>
    rw [tokens_of_finish hs ht]
    exact Nat.zero_le _
  | case3 s t s' hs ht hlt ih =>
    rw [tokens_of_token hs ht, List.length_cons]
    omega

/-! ## One filter for the same words -/

/-- **The grammar is unambiguous.** The parser makes one filter of the words,
and both derivations say which. -/
theorem Denotes.unique {ws : List Word} {f g : Filter} (hf : Denotes ws f) (hg : Denotes ws g) :
    f = g := by
  obtain ⟨m, hf⟩ := hf
  obtain ⟨n, hg⟩ := hg
  -- any words are those of some tokens
  obtain ⟨ts, rfl⟩ : ∃ ts : List Token, ts.map Token.word = ws := by
    refine ⟨ws.map fun w => ⟨w.1, w.2, 0⟩, ?_⟩
    rw [List.map_map]
    exact List.map_id ws
  have hreadf := (hf.settles_to_end _ 0).1 (hf.fits (Nat.le_refl _))
  have hreadg := (hg.settles_to_end _ 0).1 (hg.fits (Nat.le_refl _))
  exact congrArg Parsed.tree (Except.ok.inj (hreadf.symm.trans hreadg))

/-! ## Texts -/

/-- **The texts that are read are the sentences of the grammar**, each as the
only filter that its words stand for, when the limit is at least the length of
the text. No text in memory is longer than the greatest word. -/
theorem parseFilter_eq_some_iff_denotes {limit : Nat} {text : String}
    (hlimit : text.length ≤ limit) :
    (∀ f, parseFilter limit text = .ok (some f) ↔
      ∃ ts stop, tokensOf text = ⟨ts, .ok stop⟩ ∧ Denotes (ts.map Token.word) f) ∧
    ∀ (ws : List Word) (f g : Filter), Denotes ws f → Denotes ws g → f = g := by
  refine ⟨fun f => ⟨fun h => ?_, ?_⟩, fun ws f g hf hg => hf.unique hg⟩
  · obtain ⟨ts, stop, n, hts, hd, -⟩ := derives_of_parseFilter h
    exact ⟨ts, stop, hts, n, hd⟩
  · rintro ⟨ts, stop, hts, n, hd⟩
    refine (parseFilter_of_derives hts hd).1 (hd.fits ?_)
    have hlen := (Scanner.ofString text).length_tokens_le
    change (tokensOf text).tokens.length ≤ text.length at hlen
    rw [hts] at hlen
    rw [List.length_map]
    exact hlen.trans hlimit

/-- A text in which `and` binds before `or`, and `not` before both. -/
def mixedText : String := "a == null or b == null and not c == null"

/-- The tree of that text. -/
def mixedTree : Filter :=
  (Filter.condition ⟨["a"], .isNull, false⟩).or
    ((Filter.condition ⟨["b"], .isNull, false⟩).and (.condition ⟨["c"], .isNull, true⟩))

theorem mixedText_denotes :
    ∃ ts stop, tokensOf mixedText = ⟨ts, .ok stop⟩ ∧ Denotes (ts.map Token.word) mixedTree := by
  have ha : Condition.Writable ⟨["a"], .isNull, false⟩ := by decide
  have hb : Condition.Writable ⟨["b"], .isNull, false⟩ := by decide
  have hc : Condition.Writable ⟨["c"], .isNull, false⟩ := by decide
  have htext : mixedText.toList = (Condition.text ⟨["a"], .isNull, false⟩).toList ++
      ' ' :: (Connective.or.keyword.toList ++ ' ' ::
        ((Condition.text ⟨["b"], .isNull, false⟩).toList ++
          ' ' :: (Connective.and.keyword.toList ++ ' ' :: ("not".toList ++
            ' ' :: (Condition.text ⟨["c"], .isNull, false⟩).toList)))) := by
    decide
  have hspells := (Condition.spells_text ha).blank ((spells_keyword .or).blank
    ((Condition.spells_text hb).blank ((spells_keyword .and).blank
      (spells_not.blank (Condition.spells_text hc)))))
  rw [← htext] at hspells
  obtain ⟨ts, stop, hts, hmap⟩ := hspells.tokensOf
  have hderives : Derives (.chain .or) _ mixedTree _ :=
    .join "or" (.operand (.operand (Condition.derives_words ha)))
      (.join "and" (.operand (Condition.derives_words hb))
        (.not "not" (Condition.derives_words hc)))
  exact ⟨ts, stop, hts, _, hmap ▸ hderives⟩

/-- The text without brackets is read as its tree under the greatest limit there is. -/
theorem parseFilter_mixedText :
    mixedText.length ≤ UInt64.size - 1 ∧
      parseFilter (UInt64.size - 1) mixedText = .ok (some mixedTree) := by
  have hlength : mixedText.length ≤ UInt64.size - 1 := by decide
  exact ⟨hlength, ((parseFilter_eq_some_iff_denotes hlength).1 mixedTree).2 mixedText_denotes⟩

end RecordQuery
