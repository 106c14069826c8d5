import Mathlib.Algebra.Group.Nat.Defs
import RecordQuery.Proofs.Query.Matching
import RecordQuery.Proofs.Query.Stability
import RecordQuery.Reference.Engine
/-!
# Reading page after page

A client that asks for the first page, and then for the page at the offset that
came with the one before, until a page is marked as the last one, reads the whole
answer of its query (`Query.pages_flatten`). A page that is marked as the last one
is the rest of the answer; any other is full, and the next offset is where it ends
(`Query.page_cases`). The mark is an offset itself, so this holds for
answers that do not go past it.
-/

namespace RecordQuery

open Json

/-! ## What comes with a page -/

theorem toNat_clampedWord (n : Nat) : (clampedWord n).toNat = min n (UInt32.size - 1) := by
  have hlt : min n (UInt32.size - 1) < UInt32.size := by
    have : 0 < UInt32.size := by decide
    omega
  exact UInt32.toNat_ofNat_of_lt' hlt

/-- A number up to a word is a word. -/
theorem toNat_clampedWord_of_le {n : Nat} {w : UInt32} (h : n ≤ w.toNat) :
    (clampedWord n).toNat = n := by
  have := w.toNat_lt_size
  rw [toNat_clampedWord]
  omega

namespace Pagination

variable {p : Pagination} {c : Config} {returned : Nat}

/-- Where a page ends, as the offset of the next one. -/
def pageEnd (p : Pagination) (returned : Nat) : UInt32 :=
  clampedWord (p.offset.toNat + (clampedWord returned).toNat)

/-- A page is marked as the last one if it is not full, or if it ends at the
very offset that is the mark. -/
theorem isLastPage_next :
    (p.next c returned).isLastPage = true ↔
      clampedWord returned < p.effectiveLimit c ∨ p.pageEnd returned = lastOffset := by
  have htoken : ("" == lastToken) = false := by decide
  simp only [next, PageInfo.isLastPage]
  split
  · next hshort =>
    simp only [PageInfo.withLastOffset, beq_self_eq_true, Bool.or_true, hshort, true_or]
  · next hfull =>
    simp only [htoken, Bool.false_or, beq_iff_eq, hfull, false_or]
    exact Iff.rfl

/-- Any other page comes with the offset that it ends at. -/
theorem offset_next (h : (p.next c returned).isLastPage = false) :
    (p.next c returned).offset = p.pageEnd returned := by
  rw [← Bool.not_eq_true, isLastPage_next, not_or] at h
  rw [next]
  exact congrArg PageInfo.offset (if_neg h.1)

/-- What a page holds is counted, and where it ends is clamped. -/
theorem toNat_pageEnd (h : returned ≤ (p.effectiveLimit c).toNat) :
    (p.pageEnd returned).toNat = min (p.offset.toNat + returned) (UInt32.size - 1) := by
  rw [pageEnd, toNat_clampedWord, toNat_clampedWord_of_le h]

/-- The mark is not where an end is clamped to. -/
theorem isLastPage_next_of_le (h : returned ≤ (p.effectiveLimit c).toNat) :
    (p.next c returned).isLastPage = true ↔
      returned < (p.effectiveLimit c).toNat ∨ p.offset.toNat + returned = lastOffset.toNat := by
  have : lastOffset.toNat < UInt32.size - 1 := by decide
  rw [isLastPage_next, UInt32.lt_iff_toNat_lt, toNat_clampedWord_of_le h, ← UInt32.toNat_inj,
    toNat_pageEnd h]
  omega

/-- The offset of the next page, as a number. -/
theorem toNat_offset_next (h : returned ≤ (p.effectiveLimit c).toNat)
    (hlast : (p.next c returned).isLastPage = false) :
    (p.next c returned).offset.toNat = min (p.offset.toNat + returned) (UInt32.size - 1) := by
  rw [offset_next hlast, toNat_pageEnd h]

end Pagination

/-! ## One page -/

namespace Query

section

variable [PatternEngine] {q : Query} {config : Config} {records : List Value} {offset : UInt32}
variable {page : List Value} {info : PageInfo}

/-- The query for the page at an offset. -/
def startingAt (q : Query) (offset : UInt32) : Query :=
  { q with pagination := { q.pagination with offset } }

/-- The records that a page holds when it is full. -/
def pageSize (q : Query) (config : Config) : Nat := (q.pagination.effectiveLimit config).toNat

/-- What a page holds, and what it comes with. -/
theorem page_eq (h : ∀ v ∈ records, ∃ b, q.filter.verdict (.document v) = .ok b)
    (hrun : (q.startingAt offset).run config records = .ok (page, info)) :
    page = ((q.answer records).drop offset.toNat).take (q.pageSize config) ∧
      info = (q.startingAt offset).pagination.next config page.length := by
  rw [run_of_verdicts (q := q.startingAt offset) h] at hrun
  obtain ⟨rfl, rfl⟩ := Prod.mk.inj (Except.ok.inj hrun)
  exact ⟨rfl, rfl⟩

/-- No page goes past the end of the answer. -/
theorem page_length (h : ∀ v ∈ records, ∃ b, q.filter.verdict (.document v) = .ok b)
    (hrun : (q.startingAt offset).run config records = .ok (page, info)) :
    page.length = min (q.pageSize config) ((q.answer records).length - offset.toNat) := by
  rw [(page_eq h hrun).1, List.length_take, List.length_drop]

/-- The last page is the rest of the answer. A page before it is full, and comes
with the offset where it ends. -/
theorem page_cases (h : ∀ v ∈ records, ∃ b, q.filter.verdict (.document v) = .ok b)
    (hcount : (q.answer records).length ≤ lastOffset.toNat)
    (hoffset : offset.toNat ≤ (q.answer records).length)
    (hrun : (q.startingAt offset).run config records = .ok (page, info)) :
    (info.isLastPage = true → page = (q.answer records).drop offset.toNat) ∧
    (info.isLastPage = false →
      page = ((q.answer records).drop offset.toNat).take (q.pageSize config) ∧
      page.length = q.pageSize config ∧
      info.offset.toNat = offset.toNat + q.pageSize config ∧
      offset.toNat + q.pageSize config ≤ (q.answer records).length) := by
  obtain ⟨hpage, rfl⟩ := page_eq h hrun
  have hlength := page_length h hrun
  have hfit : page.length ≤ ((q.startingAt offset).pagination.effectiveLimit config).toNat :=
    hlength ▸ Nat.min_le_left _ _
  have hlast := Pagination.isLastPage_next_of_le hfit
  change _ ↔ page.length < q.pageSize config ∨ offset.toNat + page.length = lastOffset.toNat
    at hlast
  refine ⟨fun hl => ?_, fun hl => ?_⟩
  · rw [hlast] at hl
    rw [hpage]
    refine List.take_of_length_le ?_
    rw [List.length_drop]
    -- an answer that ends at the mark is as long as it can be
    omega
  · have hword : lastOffset.toNat < UInt32.size - 1 := by decide
    have hend := Pagination.toNat_offset_next hfit hl
    change _ = min (offset.toNat + page.length) _ at hend
    rw [← Bool.not_eq_true, hlast, not_or, Nat.not_lt] at hl
    have hfull : page.length = q.pageSize config := by omega
    exact ⟨hpage, hfull, by omega, by omega⟩

/-! ## All pages -/

/-- The pages that are read from an offset on, each at the offset that came
with the one before, until one is marked as the last. -/
inductive Reads (q : Query) (config : Config) (records : List Value) :
    UInt32 → List (List Value) → Prop
  | last {offset : UInt32} {page : List Value} {info : PageInfo}
      (hrun : (q.startingAt offset).run config records = .ok (page, info))
      (hlast : info.isLastPage = true) : Reads q config records offset [page]
  | next {offset : UInt32} {page : List Value} {info : PageInfo} {pages : List (List Value)}
      (hrun : (q.startingAt offset).run config records = .ok (page, info))
      (hnext : info.isLastPage = false) (hpages : Reads q config records info.offset pages) :
      Reads q config records offset (page :: pages)

namespace Reads

variable {pages pages' : List (List Value)}

theorem ne_nil (h : q.Reads config records offset pages) : pages ≠ [] := by
  cases h <;> exact List.cons_ne_nil _ _

/-- Pages can be read in one way only. -/
theorem unique (h : q.Reads config records offset pages)
    (h' : q.Reads config records offset pages') : pages = pages' := by
  induction h generalizing pages' with
  | last hrun hlast =>
    cases h' with
    | last hrun' _ =>
      cases hrun.symm.trans hrun'
      rfl
    | next hrun' hnext' _ =>
      cases hrun.symm.trans hrun'
      rw [hlast] at hnext'
      cases hnext'
  | next hrun hnext _ ih =>
    cases h' with
    | last hrun' hlast' =>
      cases hrun.symm.trans hrun'
      rw [hnext] at hlast'
      cases hlast'
    | next hrun' _ hpages' =>
      cases hrun.symm.trans hrun'
      rw [ih hpages']

variable (h : ∀ v ∈ records, ∃ b, q.filter.verdict (.document v) = .ok b)
variable (hcount : (q.answer records).length ≤ lastOffset.toNat)

include h hcount

/-- The pages make up the rest of the answer. -/
theorem flatten_eq (hreads : q.Reads config records offset pages)
    (hoffset : offset.toNat ≤ (q.answer records).length) :
    pages.flatten = (q.answer records).drop offset.toNat := by
  induction hreads with
  | @last offset page info hrun hlast =>
    have hpage := (page_cases h hcount hoffset hrun).1 hlast
    rw [List.flatten_singleton, hpage]
  | @next offset page info pages hrun hnext _ ih =>
    obtain ⟨hpage, -, hend, hle⟩ := (page_cases h hcount hoffset hrun).2 hnext
    have hrest := ih (hend ▸ hle)
    rw [List.flatten_cons, hrest, hpage, hend, ← List.drop_drop, List.take_append_drop]

/-- All pages but the last are full. -/
theorem length_eq (hreads : q.Reads config records offset pages)
    (hoffset : offset.toNat ≤ (q.answer records).length) :
    ∀ page ∈ pages.dropLast, page.length = q.pageSize config := by
  induction hreads with
  | last hrun hlast => exact nofun
  | @next offset page info pages hrun hnext hpages ih =>
    obtain ⟨-, hfull, hend, hle⟩ := (page_cases h hcount hoffset hrun).2 hnext
    rw [List.dropLast_cons_of_ne_nil hpages.ne_nil, List.forall_mem_cons]
    exact ⟨hfull, ih (hend ▸ hle)⟩

/-- Reading ends, since a page that is not the last one holds a record. -/
theorem exists_reads (hsize : 0 < q.pageSize config)
    (hoffset : offset.toNat ≤ (q.answer records).length) :
    ∃ pages, q.Reads config records offset pages := by
  -- on what is left of the answer, which gets shorter with every page
  induction hleft : (q.answer records).length - offset.toNat using Nat.strongRecOn
    generalizing offset with
  | ind left ih =>
    obtain ⟨⟨page, info⟩, hrun⟩ :
        ∃ result, (q.startingAt offset).run config records = .ok result :=
      ⟨_, run_of_verdicts h⟩
    cases hlast : info.isLastPage with
    | true => exact ⟨[page], .last hrun hlast⟩
    | false =>
      obtain ⟨-, -, hend, hle⟩ := (page_cases h hcount hoffset hrun).2 hlast
      have hnext : info.offset.toNat ≤ (q.answer records).length := hend ▸ hle
      obtain ⟨pages, hpages⟩ := ih _ (by omega) hnext rfl
      exact ⟨page :: pages, .next hrun hlast hpages⟩

end Reads

/-- **Reading page after page gives the answer.** Reading from the beginning ends
in one way, and the pages put together are all the records that pass, each as
often as it is there, in the order of the query; all but the last are full. -/
theorem pages_flatten (hlimit : 1 ≤ q.pagination.effectiveLimit config)
    (h : ∀ v ∈ records, ∃ b, q.filter.verdict (.document v) = .ok b)
    (hcount : (records.filter q.filter.passes).length ≤ 2 ^ 30) :
    ∃ pages, (∀ other, q.Reads config records 0 other ↔ other = pages) ∧
      pages.flatten = sort q.sorting (records.filter q.filter.passes) ∧
      pages.flatten.Perm (records.filter q.filter.passes) ∧
      ∀ page ∈ pages.dropLast, page.length = (q.pagination.effectiveLimit config).toNat := by
  have hsize : 0 < q.pageSize config := UInt32.le_iff_toNat_le.1 hlimit
  have hperm := sort_perm q.sorting (records.filter q.filter.passes)
  have hanswer : (q.answer records).length ≤ lastOffset.toNat := by
    rw [answer, hperm.length_eq]
    exact hcount
  have hstart : (0 : UInt32).toNat ≤ (q.answer records).length := Nat.zero_le _
  obtain ⟨pages, hreads⟩ :=
    Reads.exists_reads h hanswer hsize hstart
  have hflatten : pages.flatten = q.answer records := hreads.flatten_eq h hanswer hstart
  refine ⟨pages, fun other => ⟨fun hother => hother.unique hreads, ?_⟩, hflatten, ?_,
    hreads.length_eq h hanswer hstart⟩
  · rintro rfl
    exact hreads
  · rw [hflatten]
    exact hperm

end

section

open Reference

/-- A query for the records with a field that is not null, two on a page. -/
def pairsQuery : Query :=
  ⟨⟨some (.condition ⟨["a"], .isNull, true⟩), [], rfl⟩, ⟨[⟨"a", .descending⟩]⟩, ⟨2, 0, ""⟩⟩

/-- A record with a flag, or none, and a number. -/
def flagRecord (p : Option Bool × Int) : Value :=
  .object [("a", p.1.elim .null .bool), ("n", .ofInt p.2)]

/-- Six records, one of which has no flag. -/
def flags : List (Option Bool × Int) :=
  [(some false, 1), (some true, 2), (none, 3), (some true, 4), (some false, 5), (some true, 6)]

/-- The five with a flag, the raised ones before the others. -/
def sortedFlags : List (Option Bool × Int) :=
  [(some true, 2), (some true, 4), (some true, 6), (some false, 1), (some false, 5)]

theorem flags_verdict :
    ∀ v ∈ flags.map flagRecord, ∃ b, pairsQuery.filter.verdict (.document v) = .ok b := by
  simp only [flags, List.map_cons, List.map_nil, List.forall_mem_cons]
  exact ⟨⟨true, rfl⟩, ⟨true, rfl⟩, ⟨false, rfl⟩, ⟨true, rfl⟩, ⟨true, rfl⟩, ⟨true, rfl⟩, nofun⟩

theorem answer_flags : pairsQuery.answer (flags.map flagRecord) = sortedFlags.map flagRecord := by
  have hpass : (flags.map flagRecord).filter pairsQuery.filter.passes =
      (flags.filter fun p => p.1.isSome).map flagRecord := rfl
  have hsorted : Sorts
      (fun a b => pairsQuery.sorting.compareDocuments (flagRecord a) (flagRecord b))
      (flags.filter fun p => p.1.isSome) sortedFlags := by
    have := transCmp_comap pairsQuery.sorting.compareDocuments flagRecord
    decide
  rw [answer, hpass]
  exact (sorts_sort _ _).unique hsorted.map

/-- The records with a flag are read on three pages. -/
theorem pairsQuery_pages :
    (1 ≤ pairsQuery.pagination.effectiveLimit .standard ∧
      (∀ v ∈ flags.map flagRecord, ∃ b, pairsQuery.filter.verdict (.document v) = .ok b) ∧
      ((flags.map flagRecord).filter pairsQuery.filter.passes).length ≤ 2 ^ 30) ∧
    ∀ pages, pairsQuery.Reads .standard (flags.map flagRecord) 0 pages ↔ pages =
      [[flagRecord (some true, 2), flagRecord (some true, 4)],
        [flagRecord (some true, 6), flagRecord (some false, 1)],
        [flagRecord (some false, 5)]] := by
  have hlimit : 1 ≤ pairsQuery.pagination.effectiveLimit .standard := by decide
  have hcount : ((flags.map flagRecord).filter pairsQuery.filter.passes).length ≤ 2 ^ 30 := by
    have hfive : ((flags.map flagRecord).filter pairsQuery.filter.passes).length = 5 := rfl
    rw [hfive]
    decide
  have hrun (offset : UInt32) :
      (pairsQuery.startingAt offset).run .standard (flags.map flagRecord) =
        .ok (window ⟨2, offset, ""⟩ .standard (sortedFlags.map flagRecord),
          Pagination.next ⟨2, offset, ""⟩ .standard
            (window ⟨2, offset, ""⟩ .standard (sortedFlags.map flagRecord)).length) := by
    rw [← answer_flags]
    exact run_of_verdicts (q := pairsQuery.startingAt offset) flags_verdict
  obtain ⟨pages, hreads, -, -, -⟩ := pages_flatten hlimit flags_verdict hcount
  have hpages := (hreads _).1 (.next (hrun 0) rfl (.next (hrun 2) rfl (.last (hrun 4) rfl)))
  rw [← hpages] at hreads
  exact ⟨⟨hlimit, flags_verdict, hcount⟩, hreads⟩

end

end Query

end RecordQuery
