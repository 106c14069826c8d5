import Mathlib.Logic.Relation
import RecordQuery.Proofs.Query.Pages
/-!
# Following the offsets

The offset that comes with a page is where the page ends, clamped to a word, as long
as the end is not the mark of the last page (`Pagination.next_exact`).
A client that goes from page to page by these offsets gets further with every
page, unless a page holds nothing (`Pagination.advances_iff`). Checking a
configuration does not rule that out: the greatest limit has to be positive, but
the default one may be zero.
-/

namespace RecordQuery

/-! ## How much a page may hold -/

namespace Config

variable {c : Config}

theorem maxLimit_ne_zero (h : c.validate = .ok ()) : c.maxLimit ≠ 0 := by
  rintro hzero
  rw [validate, if_pos hzero] at h
  cases h

/-- Only nothing that is asked for, by default, makes a page that holds nothing. -/
theorem effectiveLimit_eq_zero (h : c.maxLimit ≠ 0) (requested : UInt32) :
    c.effectiveLimit requested = 0 ↔ requested = 0 ∧ c.defaultLimit = 0 := by
  have hmin (n : UInt32) : min n c.maxLimit = 0 ↔ n = 0 := by
    constructor
    · intro hzero
      rcases Std.min_eq_or (a := n) (b := c.maxLimit) with hn | hmax
      · exact hn.symm.trans hzero
      · exact absurd (hmax.symm.trans hzero) h
    · rintro rfl
      exact UInt32.le_zero_iff.1 Std.min_le_left
  rw [effectiveLimit]
  split
  · next hnone => rw [hmin, and_iff_right hnone]
  · next hsome => rw [hmin, iff_false_right (fun hboth => hsome hboth.1)]; exact hsome

end Config

namespace Pagination

variable {p p' : Pagination} {c : Config} {returned total : Nat}

/-! ## One page -/

/-- **What comes with a page**, unless it is full and ends at the mark: it is the last
one exactly if it is not full, and otherwise it comes with its end, or with the
greatest offset if a word cannot hold the end. -/
theorem next_exact (h : returned ≤ (p.effectiveLimit c).toNat)
    (hmark : returned < (p.effectiveLimit c).toNat ∨
      p.offset.toNat + returned ≠ lastOffset.toNat) :
    ((p.next c returned).isLastPage = true ↔ returned < (p.effectiveLimit c).toNat) ∧
      ((p.next c returned).isLastPage = false →
        (p.next c returned).offset.toNat = min (p.offset.toNat + returned) (UInt32.size - 1)) := by
  refine ⟨?_, toNat_offset_next h⟩
  rw [isLastPage_next_of_le h]
  omega

/-- Ten records at the greatest offset are a full page, but no word holds its end. Ten
records up to the mark fill their page as well, and are taken for the last ones. -/
theorem next_inexact :
    (10 ≤ (effectiveLimit ⟨10, 4294967295, ""⟩ .standard).toNat ∧
      (next ⟨10, 4294967295, ""⟩ .standard 10).isLastPage = false ∧
      (next ⟨10, 4294967295, ""⟩ .standard 10).offset.toNat ≠ 4294967295 + 10) ∧
    (10 ≤ (effectiveLimit ⟨10, 1073741814, ""⟩ .standard).toNat ∧
      ¬ ((next ⟨10, 1073741814, ""⟩ .standard 10).isLastPage = true ↔
        10 < (effectiveLimit ⟨10, 1073741814, ""⟩ .standard).toNat)) := by
  decide

/-- Ten records behind the mark come with their end. -/
theorem tenBehindMark_exact :
    10 ≤ (effectiveLimit ⟨10, 1073741824, ""⟩ .standard).toNat ∧
      1073741824 + 10 ≠ lastOffset.toNat ∧
      (next ⟨10, 1073741824, ""⟩ .standard 10).isLastPage = false ∧
      (next ⟨10, 1073741824, ""⟩ .standard 10).offset.toNat = 1073741834 := by
  have hfits : 10 ≤ (effectiveLimit ⟨10, 1073741824, ""⟩ .standard).toNat := by decide
  have hmark : 1073741824 + 10 ≠ lastOffset.toNat := by decide
  obtain ⟨hlast, hoffset⟩ := next_exact hfits (.inr hmark)
  have hfull : (next ⟨10, 1073741824, ""⟩ .standard 10).isLastPage = false := by
    rw [← Bool.not_eq_true, hlast]
    decide
  exact ⟨hfits, hmark, hfull, hoffset hfull⟩

/-! ## One page after the other -/

/-- What comes with the page of a request if so many records match. -/
def pageInfo (p : Pagination) (c : Config) (total : Nat) : PageInfo :=
  p.next c (min (total - p.offset.toNat) (p.effectiveLimit c).toNat)

/-- A client that gets a page which is not the last one asks for the next. -/
inductive Follows (c : Config) (total : Nat) : Pagination → Pagination → Prop
  | next {p : Pagination} (h : (p.pageInfo c total).isLastPage = false) :
      Follows c total p { p with offset := (p.pageInfo c total).offset }

/-- Where a page that is not the last one ends: it is full, and all of it is there. -/
theorem toNat_offset_pageInfo (htotal : total < UInt32.size) (hoffset : p.offset.toNat ≤ total)
    (h : (p.pageInfo c total).isLastPage = false) :
    (p.pageInfo c total).offset.toNat = p.offset.toNat + (p.effectiveLimit c).toNat ∧
      p.offset.toNat + (p.effectiveLimit c).toNat ≤ total := by
  rw [pageInfo] at h ⊢
  have hfits := Nat.min_le_right (total - p.offset.toNat) (p.effectiveLimit c).toNat
  have hend := toNat_offset_next hfits h
  rw [← Bool.not_eq_true, isLastPage_next_of_le hfits] at h
  omega

/-- A page that holds nothing is the last one only at the mark. -/
theorem isLastPage_pageInfo_of_empty (hempty : p.effectiveLimit c = 0) :
    (p.pageInfo c total).isLastPage = true ↔ p.offset = lastOffset := by
  have hfits := Nat.min_le_right (total - p.offset.toNat) (p.effectiveLimit c).toNat
  have hnone : (p.effectiveLimit c).toNat = 0 := congrArg UInt32.toNat hempty
  rw [pageInfo, isLastPage_next_of_le hfits, ← UInt32.toNat_inj]
  omega

/-- A page ends the reading or gets further exactly if it can hold something, or is
at the mark. -/
theorem pageInfo_advances_iff (htotal : total < UInt32.size) (hoffset : p.offset.toNat ≤ total) :
    ((p.pageInfo c total).isLastPage = true ∨ p.offset < (p.pageInfo c total).offset) ↔
      p.effectiveLimit c ≠ 0 ∨ p.offset = lastOffset := by
  have hend := toNat_offset_pageInfo (p := p) (c := c) htotal hoffset
  have hzero : p.effectiveLimit c = 0 ↔ (p.effectiveLimit c).toNat = 0 := UInt32.toNat_inj.symm
  rw [UInt32.lt_iff_toNat_lt]
  by_cases hempty : p.effectiveLimit c = 0
  · rw [isLastPage_pageInfo_of_empty hempty, or_iff_right (not_not_intro hempty)]
    refine or_iff_left_of_imp fun hlt => Decidable.byContradiction fun hmark => ?_
    rw [← isLastPage_pageInfo_of_empty hempty, Bool.not_eq_true] at hmark
    have := hend hmark
    have := hzero.1 hempty
    omega
  · refine iff_of_true ?_ (.inl hempty)
    cases hlast : (p.pageInfo c total).isLastPage with
    | true => exact .inl rfl
    | false =>
      have := hend hlast
      have := mt hzero.2 hempty
      exact .inr (by omega)

/-! ## A whole reading -/

/-- Going on to the next page keeps to the total, and gets as far as a page can
hold. -/
theorem Follows.toNat_offset (htotal : total < UInt32.size) (hoffset : p.offset.toNat ≤ total)
    (h : Follows c total p p') :
    p'.limit = p.limit ∧ p'.offset.toNat = p.offset.toNat + (p.effectiveLimit c).toNat ∧
      p'.offset.toNat ≤ total := by
  cases h with
  | next hlast =>
    obtain ⟨hend, hle⟩ := toNat_offset_pageInfo htotal hoffset hlast
    exact ⟨rfl, hend, hend ▸ hle⟩

/-- Whoever gets further with one page gets further with many. -/
theorem toNat_offset_of_transGen (htotal : total < UInt32.size) (hoffset : p.offset.toNat ≤ total)
    (h : Relation.TransGen (Follows c total) p p') :
    p'.limit = p.limit ∧ p.offset.toNat + (p.effectiveLimit c).toNat ≤ p'.offset.toNat ∧
      p'.offset.toNat ≤ total := by
  induction h with
  | single h =>
    obtain ⟨hlimit, hend, hle⟩ := h.toNat_offset htotal hoffset
    exact ⟨hlimit, Nat.le_of_eq hend.symm, hle⟩
  | tail _ h ih =>
    obtain ⟨hlimit, hend, hle⟩ := ih
    obtain ⟨hlimit', hend', hle'⟩ := h.toNat_offset htotal hle
    exact ⟨hlimit'.trans hlimit, by omega, hle'⟩

/-- A page that holds nothing and is not at the mark is asked for again. -/
theorem follows_self (htotal : total < UInt32.size) (hoffset : p.offset.toNat ≤ total)
    (hempty : p.effectiveLimit c = 0) (hmark : p.offset ≠ lastOffset) : Follows c total p p := by
  have hlast : (p.pageInfo c total).isLastPage = false := by
    rwa [← Bool.not_eq_true, isLastPage_pageInfo_of_empty hempty]
  have hsame : (p.pageInfo c total).offset = p.offset := by
    have hnone : (p.effectiveLimit c).toNat = 0 := congrArg UInt32.toNat hempty
    have hend := (toNat_offset_pageInfo htotal hoffset hlast).1
    exact UInt32.toNat_inj.1 (by omega)
  have h := Follows.next hlast
  rwa [hsame] at h

/-- **Following the offsets.** Under a configuration that passes its check, every page
ends the reading or comes with a greater offset, and no page is asked for twice,
exactly if the request or the configuration has a limit other than zero, or the
request is at the mark. -/
theorem advances_iff (hc : c.validate = .ok ()) (htotal : total < UInt32.size)
    (hoffset : p.offset.toNat ≤ total) :
    (((p.pageInfo c total).isLastPage = true ∨ p.offset < (p.pageInfo c total).offset) ↔
      p.limit ≠ 0 ∨ c.defaultLimit ≠ 0 ∨ p.offset = lastOffset) ∧
    ((∀ p', Relation.TransGen (Follows c total) p p' → p.offset < p'.offset) ↔
      p.limit ≠ 0 ∨ c.defaultLimit ≠ 0 ∨ p.offset = lastOffset) := by
  have hlimit : p.effectiveLimit c ≠ 0 ∨ p.offset = lastOffset ↔
      p.limit ≠ 0 ∨ c.defaultLimit ≠ 0 ∨ p.offset = lastOffset := by
    rw [effectiveLimit, Ne, Config.effectiveLimit_eq_zero (Config.maxLimit_ne_zero hc),
      Decidable.not_and_iff_or_not, or_assoc]
  rw [← hlimit]
  refine ⟨pageInfo_advances_iff htotal hoffset, fun h => ?_, fun h p' hp' => ?_⟩
  · refine Decidable.byContradiction fun hstuck => ?_
    obtain ⟨hempty, hmark⟩ := not_or.1 hstuck
    have hself := follows_self htotal hoffset (Decidable.not_not.1 hempty) hmark
    exact UInt32.lt_irrefl _ (h p (.single hself))
  · obtain ⟨_, hfirst, -⟩ := Relation.TransGen.head'_iff.1 hp'
    cases hfirst with
    | next hlast =>
      have hlt := ((pageInfo_advances_iff htotal hoffset).2 h).resolve_left
        (Bool.eq_false_iff.1 hlast)
      have hend := (toNat_offset_pageInfo htotal hoffset hlast).1
      have hfar := (toNat_offset_of_transGen htotal hoffset hp').2.1
      rw [UInt32.lt_iff_toNat_lt] at hlt ⊢
      omega

/-- Going through five records two by two never goes back to the beginning. -/
theorem pairs_advance :
    Config.standard.validate = .ok () ∧ 5 < UInt32.size ∧ (0 : UInt32).toNat ≤ 5 ∧
      ∀ p', Relation.TransGen (Follows .standard 5) ⟨2, 0, ""⟩ p' → 0 < p'.offset := by
  have hfive : 5 < UInt32.size := by decide
  have hzero : (0 : UInt32).toNat ≤ 5 := by decide
  have hpairs := advances_iff (p := ⟨2, 0, ""⟩) (c := .standard) rfl hfive hzero
  exact ⟨rfl, hfive, hzero, hpairs.2.2 (.inl (by decide))⟩

/-- A configuration without a default limit. It passes its check. -/
def withoutDefault : Config := { Config.standard with defaultLimit := 0 }

/-- The first page of three records holds none of them, and leads to itself. -/
theorem withoutDefault_repeats :
    withoutDefault.validate = .ok () ∧ 3 < UInt32.size ∧ (0 : UInt32).toNat ≤ 3 ∧
      ¬ ((pageInfo ⟨0, 0, ""⟩ withoutDefault 3).isLastPage = true ∨
        0 < (pageInfo ⟨0, 0, ""⟩ withoutDefault 3).offset) :=
  ⟨rfl, by decide, by decide, by decide⟩

end Pagination

end RecordQuery
