import RecordQuery.Proofs.Query.Stability
/-!
# Sorting by one criterion after the other

Sorting stably by what counts less, and then by what counts more, is sorting by
both (`Sorts.lex`): where the second order ties, it leaves what the first one did.
So records can be sorted by one criterion at a time, the last one first
(`Query.sort_by_turns`). A criterion under a tag that stands before it, upwards or
downwards, never decides.
-/

namespace RecordQuery

open Json

/-! ## Two orders, one inside the other -/

section Lex

variable {α : Type} {cmp cmp' : α → α → Ordering} {xs ys zs : List α}

/-- What ties in both orders ties. -/
theorem ties_compareLex (a b : α) :
    ties (compareLex cmp cmp') a b = (ties cmp a b && ties cmp' a b) := by
  rw [ties, ties, ties, compareLex]
  cases cmp a b <;> cases cmp' a b <;> rfl

/-- What ties in both orders is found by looking for what ties in one of them and,
among that, in the other. -/
theorem filter_ties_compareLex (a : α) (l : List α) :
    l.filter (ties (compareLex cmp cmp') a) = (l.filter (ties cmp' a)).filter (ties cmp a) ∧
      l.filter (ties (compareLex cmp cmp') a) = (l.filter (ties cmp a)).filter (ties cmp' a) := by
  rw [List.filter_filter, List.filter_filter]
  constructor
  · exact List.filter_congr fun b _ => ties_compareLex a b
  · exact List.filter_congr fun b _ => (ties_compareLex a b).trans (Bool.and_comm _ _)

/-- A list is in order if it is in the outer order, and if whatever ties there is in
the inner one. -/
theorem pairwise_compareLex [Std.ReflCmp cmp] (houter : zs.Pairwise fun a b => cmp a b ≠ .gt)
    (hinner : ∀ a, (zs.filter (ties cmp a)).Pairwise fun b c => cmp' b c ≠ .gt) :
    zs.Pairwise fun a b => compareLex cmp cmp' a b ≠ .gt := by
  induction zs with
  | nil => exact .nil
  | cons z zs ih =>
    obtain ⟨hhead, htail⟩ := List.pairwise_cons.1 houter
    refine List.pairwise_cons.2 ⟨fun w hw => ?_, ih htail fun a => ?_⟩
    · have hne := hhead w hw
      rw [compareLex]
      cases htie : cmp z w with
      | lt => exact nofun
      | gt => exact absurd htie hne
      | eq =>
        -- `z` leads what ties with it, and `w` is among that
        have hlead := hinner z
        rw [List.filter_cons_of_pos (ties_iff.2 Std.ReflCmp.compare_self)] at hlead
        exact (List.pairwise_cons.1 hlead).1 w (List.mem_filter.2 ⟨hw, ties_iff.2 htie⟩)
    · exact (hinner a).sublist ((List.sublist_cons_self z zs).filter _)

/-- **Sorting by the inner order and then by the outer one is sorting by both.** -/
theorem Sorts.lex [Std.ReflCmp cmp] (hinner : Sorts cmp' xs ys) (houter : Sorts cmp ys zs) :
    Sorts (compareLex cmp cmp') xs zs where
  perm := houter.perm.trans hinner.perm
  ordered := by
    refine pairwise_compareLex houter.ordered fun a => ?_
    rw [houter.stable a]
    exact hinner.ordered.sublist List.filter_sublist
  stable a := by
    calc zs.filter (ties (compareLex cmp cmp') a)
        = (zs.filter (ties cmp a)).filter (ties cmp' a) := (filter_ties_compareLex a zs).2
      _ = (ys.filter (ties cmp a)).filter (ties cmp' a) := by rw [houter.stable a]
      _ = (ys.filter (ties cmp' a)).filter (ties cmp a) := by
          rw [← (filter_ties_compareLex a ys).2, (filter_ties_compareLex a ys).1]
      _ = (xs.filter (ties cmp' a)).filter (ties cmp a) := by rw [hinner.stable a]
      _ = xs.filter (ties (compareLex cmp cmp') a) := (filter_ties_compareLex a xs).1.symm

end Lex

/-! ## Criteria that never decide -/

section Criteria

variable {a b : Record} {c d : Criterion} {before after criteria : List Criterion}

/-- A direction does not make a tie, and it does not break one. -/
theorem Criterion.compare_eq_eq :
    c.compare a b = .eq ↔ (a.sortKey c.tag).compare (b.sortKey c.tag) = .eq := by
  rw [compare]
  cases c.order with
  | ascending => exact Iff.rfl
  | descending => exact Ordering.swap_eq_eq

theorem compareBy_append :
    compareBy a b (before ++ after) = (compareBy a b before).then (compareBy a b after) := by
  induction before with
  | nil => rfl
  | cons c before ih => rw [List.cons_append, compareBy, compareBy, ih, Ordering.then_assoc]

/-- Where criteria tie, each of them does. -/
theorem compare_eq_of_compareBy_eq (h : compareBy a b criteria = .eq) (hd : d ∈ criteria) :
    d.compare a b = .eq := by
  induction criteria with
  | nil => exact absurd hd List.not_mem_nil
  | cons c rest ih =>
    rw [compareBy, Ordering.then_eq_eq] at h
    rcases List.mem_cons.1 hd with rfl | hd
    · exact h.1
    · exact ih h.2 hd

/-- **A criterion under a tag that stands before it never decides.** -/
theorem compareBy_repeated (hd : d ∈ before) (htag : d.tag = c.tag) :
    compareBy a b (before ++ after) = compareBy a b (before ++ c :: after) := by
  rw [compareBy_append, compareBy_append, compareBy]
  cases htie : compareBy a b before with
  | lt => rfl
  | gt => rfl
  | eq =>
    have hc : c.compare a b = .eq := by
      have h := compare_eq_of_compareBy_eq htie hd
      rwa [Criterion.compare_eq_eq, htag, ← Criterion.compare_eq_eq] at h
    rw [hc]
    rfl

end Criteria

/-! ## Records -/

/-- The first of the criteria is the outer order. -/
theorem Sorting.compareDocuments_cons (c : Criterion) (rest : List Criterion) :
    compareDocuments ⟨c :: rest⟩ =
      compareLex (compareDocuments ⟨[c]⟩) (compareDocuments ⟨rest⟩) := by
  funext v w
  show (c.compare _ _).then _ = ((c.compare _ _).then .eq).then _
  rw [Ordering.then_eq]
  rfl

namespace Query

variable {records : List Value}

/-- Orders that compare alike sort alike. -/
theorem sort_congr {s t : Sorting} (h : s.compareDocuments = t.compareDocuments) :
    sort s records = sort t records := by
  have hsorts := sorts_sort s records
  rw [h] at hsorts
  exact hsorts.unique (sorts_sort t records)

/-- The first criterion sorts what the other ones have sorted. -/
theorem sort_cons (c : Criterion) (rest : List Criterion) :
    sort ⟨c :: rest⟩ records = sort ⟨[c]⟩ (sort ⟨rest⟩ records) := by
  have hsorts := (sorts_sort ⟨rest⟩ records).lex (sorts_sort ⟨[c]⟩ (sort ⟨rest⟩ records))
  rw [← Sorting.compareDocuments_cons] at hsorts
  exact (sorts_sort ⟨c :: rest⟩ records).unique hsorts

/-- **Sorting by many criteria is sorting by each of them in turn**, from the last
one to the first. A criterion under a tag that stands before it can be left
out. -/
theorem sort_by_turns (criteria : List Criterion) (records : List Value) :
    sort ⟨criteria⟩ records = criteria.foldr (fun c sorted => sort ⟨[c]⟩ sorted) records ∧
    ∀ before c after, criteria = before ++ c :: after → (∃ d ∈ before, d.tag = c.tag) →
      sort ⟨before ++ after⟩ records = sort ⟨criteria⟩ records := by
  constructor
  · induction criteria with
    | nil => rfl
    | cons c rest ih => rw [sort_cons, ih, List.foldr_cons]
  · rintro before c after rfl ⟨d, hd, htag⟩
    refine sort_congr ?_
    funext v w
    exact compareBy_repeated hd htag

/-- Players by their teams, and in a team from the last name to the first. -/
def teamThenName : List Criterion := [⟨"team", .ascending⟩, ⟨"name", .descending⟩]

/-- A player with a name, and a team or none. -/
def player (p : String × Option String) : Value :=
  .object [("name", .string p.1), ("team", p.2.elim .null .string)]

/-- Players, one of whom has no team. -/
def players : List (String × Option String) :=
  [("Cleo", some "red"), ("Ann", some "blue"), ("Bob", none), ("Dan", some "red")]

/-- The players, sorted by their teams and names. Asking for the teams once more, downwards,
changes nothing. -/
theorem players_sort :
    (∃ d ∈ teamThenName, d.tag = "team") ∧
      sort ⟨teamThenName ++ [⟨"team", .descending⟩]⟩ (players.map player) =
        [("Bob", none), ("Ann", some "blue"), ("Dan", some "red"), ("Cleo", some "red")].map
          player := by
  have htag : ∃ d ∈ teamThenName, d.tag = "team" := ⟨⟨"team", .ascending⟩, by decide, rfl⟩
  have hsort := (sort_by_turns _ (players.map player)).2 teamThenName ⟨"team", .descending⟩ [] rfl
    htag
  have hsorted : Sorts (fun a b => Sorting.compareDocuments ⟨teamThenName⟩ (player a) (player b))
      players [("Bob", none), ("Ann", some "blue"), ("Dan", some "red"), ("Cleo", some "red")] := by
    have := transCmp_comap (Sorting.compareDocuments ⟨teamThenName⟩) player
    decide
  rw [List.append_nil, (sorts_sort _ _).unique hsorted.map] at hsort
  exact ⟨htag, hsort.symm⟩

end Query

end RecordQuery
