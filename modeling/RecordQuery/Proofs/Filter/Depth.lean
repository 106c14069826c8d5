import RecordQuery.Proofs.Filter.Limits
import RecordQuery.Proofs.Filter.Reparsing
/-!
# How deep the trees are that are read

The limit is compared with the depth of a tree where two trees are joined, and with what
is open where a bracket or a `not` is passed. Neither happens on the way to a single
condition, so one is read even under a limit of zero, which its tree exceeds. Under every
other limit no tree is deeper than that (`depth_le_limit_iff`).
-/

namespace RecordQuery

/-- **Three words are a condition, and all else has more.** -/
theorem Derives.length_words {part : Part} {ws : List Word} {f : Filter} {n : Nat}
    (h : Derives part ws f n) : 3 ≤ ws.length ∧ (ws.length = 3 ↔ n = 0 ∧ f.depth = 1) := by
  induction h with
  | operand _ ih => exact ih
  | @join c us ws l r m n t _ _ ihl ihr =>
    have := l.depth_pos
    simp only [List.length_append, List.length_cons, Filter.depth]
    omega
  | not t _ ih =>
    rw [List.length_cons]
    omega
  | term _ ih => exact ih
  | group t t' _ ih =>
    simp only [List.length_cons, List.length_append]
    omega
  | condition t hk h => exact ⟨Nat.le_refl 3, iff_of_true rfl ⟨rfl, rfl⟩⟩

/-- Only single conditions fit a limit of zero. -/
theorem fits_zero_iff {f : Filter} {n : Nat} : Fits 0 0 f n ↔ n = 0 ∧ f.depth = 1 := by
  have := f.depth_pos
  simp only [Fits]
  omega

/-- **Trees are no deeper than the limit they are read under, unless it is zero.** Under
zero those texts are read that have three tokens and are read under any limit, and their
trees have a depth of one. -/
theorem depth_le_limit_iff (text : String) (f : Filter) :
    (∀ limit, parseFilter limit text = .ok (some f) → (f.depth ≤ limit ↔ limit ≠ 0)) ∧
    (parseFilter 0 text = .ok (some f) ↔ (tokensOf text).tokens.length = 3 ∧
      ∃ limit, parseFilter limit text = .ok (some f)) := by
  have hpos := f.depth_pos
  refine ⟨fun limit h => ?_, fun h => ⟨?_, 0, h⟩, ?_⟩
  · obtain ⟨-, -, -, -, -, -, hdepth⟩ := derives_of_parseFilter h
    omega
  · obtain ⟨ts, stop, n, hts, hd, hfits⟩ := derives_of_parseFilter h
    rw [hts, ← ts.length_map]
    exact hd.length_words.2.2 (fits_zero_iff.1 hfits)
  · rintro ⟨hthree, limit, h⟩
    obtain ⟨ts, stop, n, hts, hd, -⟩ := derives_of_parseFilter h
    rw [hts, ← ts.length_map] at hthree
    exact (parseFilter_of_derives hts hd).1 (fits_zero_iff.2 (hd.length_words.2.1 hthree))

/-- The trees of two texts: one under a limit of its depth, and one under no limit that
would allow it, which is read under zero. -/
theorem depth_le_two_not_zero :
    parseFilter 2 negatedPair.text = .ok (some negatedPair) ∧ negatedPair.depth ≤ 2 ∧
      parseFilter 1 (Filter.condition isNullTest).text = .ok (some (.condition isNullTest)) ∧
      (tokensOf (Filter.condition isNullTest).text).tokens.length = 3 ∧
      parseFilter 0 (Filter.condition isNullTest).text = .ok (some (.condition isNullTest)) := by
  have hpair : parseFilter 2 negatedPair.text = .ok (some negatedPair) :=
    (Filter.parseFilter_text 2 (by decide)).1 ⟨by decide, by decide⟩
  have htest (limit : Nat) : parseFilter limit (Filter.condition isNullTest).text =
      .ok (some (.condition isNullTest)) :=
    (Filter.parseFilter_text limit (by decide)).1 ⟨Nat.zero_le limit, Nat.le_max_left 1 limit⟩
  have hzero := (depth_le_limit_iff _ _).2.1 (htest 0)
  exact ⟨hpair, ((depth_le_limit_iff _ _).1 2 hpair).2 (by decide), htest 1, hzero.1,
    (depth_le_limit_iff _ _).2.2 ⟨hzero.1, 1, htest 1⟩⟩

/-- A single condition is deeper than a limit of zero and is read under it. -/
theorem depth_not_le_zero :
    parseFilter 0 "a == null" = .ok (some (.condition isNullTest)) ∧
      ¬ ∀ (limit : Nat) (text : String) (f : Filter),
        parseFilter limit text = .ok (some f) → f.depth ≤ limit := by
  have htext : (Filter.condition isNullTest).text = "a == null" := by decide
  have hread : parseFilter 0 "a == null" = .ok (some (.condition isNullTest)) := by
    rw [← htext]
    exact (Filter.parseFilter_text 0 (by decide)).1 ⟨Nat.le_refl 0, Nat.le_refl 1⟩
  refine ⟨hread, fun h => ?_⟩
  exact Nat.not_succ_le_zero 0 (h 0 _ _ hread)

end RecordQuery
