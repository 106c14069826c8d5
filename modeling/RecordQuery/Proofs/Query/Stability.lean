import RecordQuery.Proofs.Query.Comparing
import RecordQuery.Query.Run
/-!
# Stable sorting

`Sorts cmp xs ys` says that `ys` is `xs` sorted: the same elements, none before one
that it comes after, and the elements that tie as they were. For a total preorder
there is one such list (`Sorts.unique`), and merging finds it
(`sorts_mergeSort`). So the records of a query are sorted stably, upwards and
downwards (`Query.sorts_sort`).
-/

namespace RecordQuery

open Json

section Sorts

variable {α : Type} {cmp : α → α → Ordering} {a y z : α} {xs ys zs : List α}

/-- Whether two elements tie. -/
def ties (cmp : α → α → Ordering) (a b : α) : Bool := cmp a b == .eq

theorem ties_iff {b : α} : ties cmp a b = true ↔ cmp a b = .eq := beq_iff_eq

/-- **One list is another one, sorted.** The elements that tie with a given one
stand in their old order. -/
structure Sorts (cmp : α → α → Ordering) (xs ys : List α) : Prop where
  perm : ys.Perm xs
  ordered : ys.Pairwise fun a b => cmp a b ≠ .gt
  stable : ∀ a, ys.filter (ties cmp a) = xs.filter (ties cmp a)

/-- Where everything ties, a list is sorted as it is. -/
theorem sorts_self (hties : ∀ a b, cmp a b = .eq) : Sorts cmp xs xs := by
  refine ⟨.refl xs, List.pairwise_of_forall fun a b => ?_, fun _ => rfl⟩
  rw [hties]
  decide

variable [Std.TransCmp cmp]

/-- What comes first in order comes before anything. -/
theorem head_ne_gt (h : (y :: ys).Pairwise fun a b => cmp a b ≠ .gt) (hz : z ∈ y :: ys) :
    cmp y z ≠ .gt := by
  rcases List.mem_cons.1 hz with rfl | hz
  · have hself : cmp z z = .eq := Std.ReflCmp.compare_self
    rw [hself]
    decide
  · exact (List.pairwise_cons.1 h).1 z hz

/-- Lists in order that hold the same, and agree on what ties, are equal. -/
theorem eq_of_ordered (hperm : ys.Perm zs) (hys : ys.Pairwise fun a b => cmp a b ≠ .gt)
    (hzs : zs.Pairwise fun a b => cmp a b ≠ .gt)
    (hties : ∀ a, ys.filter (ties cmp a) = zs.filter (ties cmp a)) : ys = zs := by
  induction ys generalizing zs with
  | nil => exact hperm.nil_eq
  | cons y ys ih =>
    cases zs with
    | nil => exact hperm.eq_nil
    | cons z zs =>
      -- either head comes before the other, so they tie, and lead what ties with them
      have hyz := head_ne_gt hys (hperm.mem_iff.2 List.mem_cons_self)
      have hzy := head_ne_gt hzs (hperm.mem_iff.1 List.mem_cons_self)
      have htie : cmp y z = .eq :=
        Std.OrientedCmp.isLE_antisymm (Ordering.ne_gt_iff_isLE.1 hyz)
          (Ordering.ne_gt_iff_isLE.1 hzy)
      have hhead := hties y
      rw [List.filter_cons_of_pos (ties_iff.2 Std.ReflCmp.compare_self),
        List.filter_cons_of_pos (ties_iff.2 htie)] at hhead
      obtain ⟨rfl, -⟩ := List.cons.inj hhead
      have hrest (a : α) : ys.filter (ties cmp a) = zs.filter (ties cmp a) := by
        have ha := hties a
        rw [List.filter_cons, List.filter_cons] at ha
        split at ha
        · exact (List.cons.inj ha).2
        · exact ha
      rw [ih ((List.perm_cons y).1 hperm) hys.of_cons hzs.of_cons hrest]

/-- **There is one way to sort a list.** -/
theorem Sorts.unique (h : Sorts cmp xs ys) (h' : Sorts cmp xs zs) : ys = zs :=
  eq_of_ordered (h.perm.trans h'.perm.symm) h.ordered h'.ordered fun a =>
    (h.stable a).trans (h'.stable a).symm

/-- Whether a list is another one, sorted, can be told from its own elements. -/
theorem sorts_iff : Sorts cmp xs ys ↔ ys.Perm xs ∧ (ys.Pairwise fun a b => cmp a b ≠ .gt) ∧
    ∀ a ∈ xs, ys.filter (ties cmp a) = xs.filter (ties cmp a) := by
  constructor
  · exact fun h => ⟨h.perm, h.ordered, fun a _ => h.stable a⟩
  · rintro ⟨hperm, hordered, hstable⟩
    refine ⟨hperm, hordered, fun a => ?_⟩
    by_cases ha : ∃ b ∈ xs, cmp a b = .eq
    · -- what ties with `a` is what ties with the element that does
      obtain ⟨b, hb, hab⟩ := ha
      have hties : ties cmp a = ties cmp b := by
        funext c
        rw [ties, ties, Std.TransCmp.congr_left hab]
      rw [hties]
      exact hstable b hb
    · have hnone (c : α) (hc : c ∈ xs) : ¬ ties cmp a c = true :=
        fun htie => ha ⟨c, hc, ties_iff.1 htie⟩
      rw [List.filter_eq_nil_iff.2 hnone,
        List.filter_eq_nil_iff.2 fun c hc => hnone c (hperm.mem_iff.1 hc)]

instance [DecidableEq α] : Decidable (Sorts cmp xs ys) := decidable_of_iff' _ sorts_iff

/-- Sorting things by what a function makes of them sorts what it makes of them. -/
theorem Sorts.map {β : Type} {f : β → α} {as bs : List β}
    (h : Sorts (fun a b => cmp (f a) (f b)) as bs) : Sorts cmp (as.map f) (bs.map f) := by
  refine sorts_iff.2 ⟨h.perm.map f, List.pairwise_map.2 h.ordered, List.forall_mem_map.2 ?_⟩
  intro a _
  rw [List.filter_map, List.filter_map]
  exact congrArg (List.map f) (h.stable a)

/-- **Merging sorts.** -/
theorem sorts_mergeSort (cmp : α → α → Ordering) [Std.TransCmp cmp] (xs : List α) :
    Sorts cmp xs (xs.mergeSort fun a b => cmp a b != .gt) := by
  have hle {a b : α} : (cmp a b != .gt) = true ↔ (cmp a b).isLE = true := by
    rw [bne_iff_ne, ← Ordering.ne_gt_iff_isLE]
  have htrans (a b c : α) (hab : (cmp a b != .gt) = true) (hbc : (cmp b c != .gt) = true) :
      (cmp a c != .gt) = true :=
    hle.2 (Std.TransCmp.isLE_trans (hle.1 hab) (hle.1 hbc))
  have htotal (a b : α) : (cmp a b != .gt || cmp b a != .gt) = true := by
    have hswap : cmp b a = (cmp a b).swap := Std.OrientedCmp.eq_swap
    rw [hswap]
    cases cmp a b <;> rfl
  refine ⟨List.mergeSort_perm _ _, ?_, fun a => ?_⟩
  · exact (List.pairwise_mergeSort htrans htotal xs).imp bne_iff_ne.1
  · -- what ties with `a` is in order already, so merging leaves it as it is
    have hpairwise : (xs.filter (ties cmp a)).Pairwise fun b c => (cmp b c != .gt) = true := by
      refine List.pairwise_of_forall_mem_list fun b hb c hc => ?_
      have hab : cmp a b = .eq := ties_iff.1 (List.mem_filter.1 hb).2
      have hac : cmp a c = .eq := ties_iff.1 (List.mem_filter.1 hc).2
      rw [Std.TransCmp.eq_trans (Std.OrientedCmp.eq_symm hab) hac]
      rfl
    have hsublist := (List.sublist_mergeSort htrans htotal hpairwise List.filter_sublist).filter
      (ties cmp a)
    have hperm := List.mergeSort_perm xs fun a b => cmp a b != .gt
    have hlength := (hperm.filter (ties cmp a)).length_eq
    simp only [List.filter_filter, Bool.and_self] at hsublist
    exact (hsublist.eq_of_length hlength.symm).symm

end Sorts

/-! ## The records of a query -/

/-- How an order compares two documents. -/
def Sorting.compareDocuments (s : Sorting) (v w : Value) : Ordering :=
  s.compare (.document v) (.document w)

instance (s : Sorting) : Std.TransCmp s.compareDocuments :=
  transCmp_comap s.compare Record.document

/-- Without criteria all records tie. -/
theorem Sorting.compareDocuments_of_nil {s : Sorting} (h : s.criteria = []) (v w : Value) :
    s.compareDocuments v w = .eq := by
  rw [compareDocuments, compare, h]
  rfl

/-- **Records are sorted stably.** -/
theorem Query.sorts_sort (s : Sorting) (records : List Value) :
    Sorts s.compareDocuments records (sort s records) := by
  rw [sort]
  split
  · next h => exact sorts_self (s.compareDocuments_of_nil (List.isEmpty_iff.1 h))
  · exact sorts_mergeSort s.compareDocuments records

end RecordQuery
