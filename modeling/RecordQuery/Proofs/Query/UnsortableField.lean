import RecordQuery.Query.Run
import RecordQuery.Proofs.Query.Permission
import RecordQuery.Proofs.Record.OneMember
import RecordQuery.Proofs.Text.Paths
import Mathlib.Data.List.Forall2
/-!
# What a permitted order tells about a field that is not sorted by

A policy that forbids sorting by a field is meant to keep the field out of the
order of the records. The check compares the tags of the criteria with the
field as they are written, while a document is looked up in any letter case. So
a permitted order does not depend on the field as long as no tag is another
spelling of it, and for all permitted orders this holds exactly when the table
forbids sorting under all other spellings, too.
-/

namespace RecordQuery

open Json

/-! ## Keys -/

variable {o : Members Value} {f : String} {v w : Value}

/-- The key at a path depends on the member's text only if the path is a single
name that stands for the member. -/
theorem keyAt_withText_congr {path : List String}
    (h : ∀ n, path = [n] → ¬ StandsFor o n f) (s s' : String) :
    (Record.document (withText o f s)).keyAt path =
      (Record.document (withText o f s')).keyAt path := by
  cases path with
  | nil => rfl
  | cons n rest =>
    by_cases hn : StandsFor o n f
    · cases rest with
      | nil => exact absurd hn (h n rfl)
      | cons next rest =>
        simp only [Record.keyAt, field?_of_standsFor hn]
        rfl
    · cases rest <;> simp only [Record.keyAt, field?_of_not_standsFor hn s s']

/-- The key under a tag that is no spelling of the member does not depend on the
member. -/
theorem AlikeBut.sortKey_eq {tag : String} (h : AlikeBut f v w)
    (htag : sameUpToCase f tag = false) :
    (Record.document v).sortKey tag = (Record.document w).sortKey tag := by
  cases h with
  | same v => rfl
  | texts o s s' =>
    refine keyAt_withText_congr (fun n hn hstands => ?_) s s'
    rw [eq_of_piecesOf_singleton hn, hstands.sameUpToCase] at htag
    cases htag

/-! ## Orders -/

/-- **An order none of whose tags is a spelling of the member compares alike
documents alike.** -/
theorem AlikeBut.compare_eq {sorting : Sorting} {v' w' : Value} (h : AlikeBut f v w)
    (h' : AlikeBut f v' w') (htags : ∀ c ∈ sorting.criteria, sameUpToCase f c.tag = false) :
    sorting.compare (.document v) (.document v') =
      sorting.compare (.document w) (.document w') := by
  have hcriteria (criteria : List Criterion)
      (htags : ∀ c ∈ criteria, sameUpToCase f c.tag = false) :
      compareBy (.document v) (.document v') criteria =
        compareBy (.document w) (.document w') criteria := by
    induction criteria with
    | nil => rfl
    | cons c rest ih =>
      rw [List.forall_mem_cons] at htags
      simp only [compareBy, Criterion.compare, h.sortKey_eq htags.1, h'.sortKey_eq htags.1,
        ih htags.2]
  exact hcriteria sorting.criteria htags

/-- Records at the same places of two lists compare alike, and come to the same
places by sorting. -/
structure OrderedAlike (sorting : Sorting) (xs ys : List Value) : Prop where
  compare : ∀ p ∈ xs.zip ys, ∀ q ∈ xs.zip ys,
    sorting.compare (.document p.1) (.document q.1) =
      sorting.compare (.document p.2) (.document q.2)
  sort : ∃ zs : List (Value × Value), zs.Perm (xs.zip ys) ∧
    zs.map Prod.fst = Query.sort sorting xs ∧ zs.map Prod.snd = Query.sort sorting ys

/-- Records that compare alike are sorted alike. -/
theorem orderedAlike_of_compare {sorting : Sorting} {xs ys : List Value}
    (hlen : xs.length = ys.length)
    (h : ∀ p ∈ xs.zip ys, ∀ q ∈ xs.zip ys,
      sorting.compare (.document p.1) (.document q.1) =
        sorting.compare (.document p.2) (.document q.2)) :
    OrderedAlike sorting xs ys := by
  refine ⟨h, ?_⟩
  have hfst : (xs.zip ys).map Prod.fst = xs := List.map_fst_zip (Nat.le_of_eq hlen)
  have hsnd : (xs.zip ys).map Prod.snd = ys := List.map_snd_zip (Nat.le_of_eq hlen.symm)
  rw [Query.sort, Query.sort]
  split
  · exact ⟨xs.zip ys, .refl _, hfst, hsnd⟩
  · -- sort the pairs by their left sides, which is to sort them by their right sides
    refine ⟨(xs.zip ys).mergeSort fun p q => sorting.le (.document p.1) (.document q.1),
      List.mergeSort_perm _ _, ?_, ?_⟩
    · rw [List.map_mergeSort (s := fun a b => sorting.le (.document a) (.document b)), hfst]
      exact fun _ _ _ _ => rfl
    · rw [List.map_mergeSort (s := fun a b => sorting.le (.document a) (.document b)), hsnd]
      exact fun p hp q hq => by rw [Sorting.le, Sorting.le, h p hp q hq]

/-- Lists of alike documents are ordered alike. -/
theorem orderedAlike_of_tags {sorting : Sorting} {xs ys : List Value}
    (hxy : List.Forall₂ (AlikeBut f) xs ys)
    (htags : ∀ c ∈ sorting.criteria, sameUpToCase f c.tag = false) :
    OrderedAlike sorting xs ys := by
  refine orderedAlike_of_compare hxy.length_eq fun p hp q hq => ?_
  have hzip := List.forall₂_iff_zip.1 hxy
  exact (hzip.2 hp).compare_eq (hzip.2 hq) htags

/-! ## Permitted orders -/

/-- No letter is a point in lower case. -/
theorem eq_point_of_toLower {c : Char} (h : c.toLower = '.') : c = '.' := by
  delta Char.toLower at h
  split at h
  · next hupper =>
    obtain ⟨hlow, hhigh⟩ := hupper
    have hpoint := congrArg (fun d : Char => d.val.toNat) h
    simp only [ge_iff_le, UInt32.le_iff_toNat_le, UInt32.toNat_add] at hlow hhigh hpoint
    have : ('a'.val - 'A'.val).toNat = 32 := rfl
    have : 'A'.val.toNat = 65 := rfl
    have : 'Z'.val.toNat = 90 := rfl
    have : '.'.val.toNat = 46 := rfl
    omega
  · exact h

/-- A point stays a point in every spelling. -/
theorem point_not_mem_of_sameUpToCase {f n : String} (h : sameUpToCase f n = true)
    (hf : '.' ∉ f.toList) : '.' ∉ n.toList := by
  intro hn
  rw [sameUpToCase, beq_iff_eq] at h
  have hmem : Char.toLower '.' ∈ f.toList.map Char.toLower := h ▸ List.mem_map_of_mem hn
  obtain ⟨c, hc, hlower⟩ := List.mem_map.1 hmem
  exact hf (eq_point_of_toLower hlower ▸ hc)

theorem sortKey_of_standsFor {n : String} (hdot : '.' ∉ n.toList) (h : StandsFor o n f)
    (s : String) : (Record.document (withText o f s)).sortKey n = .text s := by
  rw [Record.sortKey, piecesOf_singleton hdot]
  simp only [Record.keyAt, field?_of_standsFor h]
  rfl

/-- A tag that stands for the member orders two documents by their texts. -/
theorem compare_of_standsFor {n : String} (hdot : '.' ∉ n.toList) (h : StandsFor o n f)
    (s s' : String) :
    Sorting.compare ⟨[⟨n, .ascending⟩]⟩ (.document (withText o f s)) (.document (withText o f s')) =
      compareOfLessAndEq s s' := by
  simp only [Sorting.compare, compareBy, Criterion.compare, sortKey_of_standsFor hdot h,
    SortKey.compare]
  cases compareOfLessAndEq s s' <;> rfl

/-- Two documents that have exchanged the texts of a member. -/
theorem exchanged_alike (o : Members Value) (f : String) :
    List.Forall₂ (AlikeBut f) [withText o f "a", withText o f "b"]
      [withText o f "b", withText o f "a"] :=
  .cons (.texts o "a" "b") (.cons (.texts o "b" "a") .nil)

/-- A tag that stands for the member tells them apart. -/
theorem not_orderedAlike {n : String} (hdot : '.' ∉ n.toList) (h : StandsFor o n f) :
    ¬ OrderedAlike ⟨[⟨n, .ascending⟩]⟩ [withText o f "a", withText o f "b"]
      [withText o f "b", withText o f "a"] := by
  intro halike
  have hcompare := halike.compare (withText o f "a", withText o f "b") List.mem_cons_self
    (withText o f "b", withText o f "a") (List.mem_cons_of_mem _ List.mem_cons_self)
  rw [compare_of_standsFor hdot h, compare_of_standsFor hdot h] at hcompare
  exact absurd hcompare (by decide)

variable {t : PolicyTable} {object : String} {p : FieldPolicy}

/-- **A permitted order does not depend on a field that may not be sorted by,
unless it names it by another spelling.** For all permitted orders together,
that is so exactly when the table forbids sorting by every other spelling of
the field. -/
theorem unsortable_field_hidden (hdot : '.' ∉ f.toList) (hp : t.field? object f = some p)
    (hs : p.sortingDisabled = true) :
    (∀ sorting, t.validateSorting object sorting = .ok () →
      (∀ c ∈ sorting.criteria, c.tag ≠ f → sameUpToCase f c.tag = false) →
      ∀ xs ys, List.Forall₂ (AlikeBut f) xs ys → OrderedAlike sorting xs ys) ∧
    ((∀ sorting, t.validateSorting object sorting = .ok () →
        ∀ xs ys, List.Forall₂ (AlikeBut f) xs ys → OrderedAlike sorting xs ys) ↔
      ∀ n, n ≠ f → sameUpToCase f n = true →
        ∃ q, t.field? object n = some q ∧ q.sortingDisabled = true) := by
  have htag {sorting : Sorting} (h : t.validateSorting object sorting = .ok ()) :
      ∀ c ∈ sorting.criteria, c.tag ≠ f := by
    rintro c hc rfl
    have := PolicyTable.validateSorting_eq_ok.1 h c hc p hp
    rw [hs] at this
    cases this
  refine ⟨fun sorting h hother xs ys hxy =>
    orderedAlike_of_tags hxy fun c hc => hother c hc (htag h c hc), ⟨fun h n hne hsame => ?_,
    fun h sorting hsorting xs ys hxy => orderedAlike_of_tags hxy fun c hc => ?_⟩⟩
  · by_contra hn
    have hpermit : t.validateSorting object ⟨[⟨n, .ascending⟩]⟩ = .ok () := by
      rw [PolicyTable.validateSorting_eq_ok, List.forall_mem_singleton]
      exact fun q hq => Bool.eq_false_iff.2 fun hdisabled => hn ⟨q, hq, hdisabled⟩
    exact not_orderedAlike (point_not_mem_of_sameUpToCase hsame hdot) (standsFor_empty hsame)
      (h _ hpermit _ _ (exchanged_alike .empty f))
  · by_contra hsame
    rw [Bool.not_eq_false] at hsame
    obtain ⟨q, hq, hdisabled⟩ := h c.tag (htag hsorting c hc) hsame
    have := PolicyTable.validateSorting_eq_ok.1 hsorting c hc q hq
    rw [hdisabled] at this
    cases this

/-- A table that forbids sorting documents by the field `secret`. -/
def unsortableTable : PolicyTable :=
  PolicyTable.empty.insert "Document" "secret" FieldPolicy.unrestricted.withoutSorting

theorem unsortableTable_forbids :
    '.' ∉ "secret".toList ∧
      unsortableTable.field? "Document" "secret" = some FieldPolicy.unrestricted.withoutSorting ∧
      FieldPolicy.unrestricted.withoutSorting.sortingDisabled = true := by
  decide

/-- The table lets an order through that names the field in capitals. -/
theorem unsortableTable_tells :
    ('.' ∉ "secret".toList ∧
      unsortableTable.field? "Document" "secret" = some FieldPolicy.unrestricted.withoutSorting ∧
      FieldPolicy.unrestricted.withoutSorting.sortingDisabled = true) ∧
    unsortableTable.validateSorting "Document" ⟨[⟨"SECRET", .ascending⟩]⟩ = .ok () ∧
    List.Forall₂ (AlikeBut "secret")
      [withText .empty "secret" "a", withText .empty "secret" "b"]
      [withText .empty "secret" "b", withText .empty "secret" "a"] ∧
    Sorting.compare ⟨[⟨"SECRET", .ascending⟩]⟩
        (.document (withText .empty "secret" "a")) (.document (withText .empty "secret" "b")) ≠
      Sorting.compare ⟨[⟨"SECRET", .ascending⟩]⟩
        (.document (withText .empty "secret" "b")) (.document (withText .empty "secret" "a")) := by
  refine ⟨unsortableTable_forbids, rfl, exchanged_alike _ _, ?_⟩
  have hstands : StandsFor .empty "SECRET" "secret" := standsFor_empty (by decide)
  rw [compare_of_standsFor (by decide) hstands, compare_of_standsFor (by decide) hstands]
  decide

/-- The table lets no order through that depends on the field by its own name. -/
theorem unsortableTable_hides :
    ('.' ∉ "secret".toList ∧
      unsortableTable.field? "Document" "secret" = some FieldPolicy.unrestricted.withoutSorting ∧
      FieldPolicy.unrestricted.withoutSorting.sortingDisabled = true) ∧
    OrderedAlike ⟨[⟨"public", .ascending⟩]⟩
      [withText .empty "secret" "a", withText .empty "secret" "b"]
      [withText .empty "secret" "b", withText .empty "secret" "a"] := by
  obtain ⟨hdot, hfield, hdisabled⟩ := unsortableTable_forbids
  refine ⟨unsortableTable_forbids, (unsortable_field_hidden hdot hfield hdisabled).1
    ⟨[⟨"public", .ascending⟩]⟩ rfl ?_ _ _ (exchanged_alike _ _)⟩
  rw [List.forall_mem_singleton]
  exact fun _ => by decide

end RecordQuery
