import Mathlib.Data.List.Nodup
import RecordQuery.Record.FieldSet
/-!
# What a field set keeps

The declarations of a type are fields, each with its number, and the first ones of their
tags are told apart from the repeats by a search among all of them (`Field.IsFirst`). A
field set that holds such a list (`FieldSet.Holds`) keeps its firsts and the tags of its
repeats, in the order of the declarations, and both of its indices lead to the places where
a search would end. One declaration preserves this, and so do several.
-/

namespace RecordQuery

namespace Field

variable {fs gs : List Field} {f g : Field} {name tag : String} {number : Nat}
  {declarations : List (String × String)}

/-! ## Declarations as fields -/

/-- Declarations as fields, numbered from some number on. -/
def numbered (number : Nat) : List (String × String) → List Field
  | [] => []
  | (name, member) :: rest => ⟨name, member, number⟩ :: numbered (number + 1) rest

theorem names_numbered (number : Nat) (declarations : List (String × String)) :
    (numbered number declarations).map Field.name = declarations.map Prod.fst := by
  induction declarations generalizing number with
  | nil => rfl
  | cons d rest ih => exact congrArg (d.1 :: ·) (ih (number + 1))

theorem length_numbered : (numbered number declarations).length = declarations.length := by
  rw [← List.length_map Field.name, names_numbered, List.length_map]

theorem number_le_of_mem_numbered (h : f ∈ numbered number declarations) :
    number ≤ f.number := by
  induction declarations generalizing number with
  | nil => cases h
  | cons d rest ih =>
    rcases List.mem_cons.1 h with rfl | h
    · exact Nat.le_refl number
    · exact Nat.le_of_succ_le (ih h)

/-- **No field is declared twice**, since its number tells it apart. -/
theorem nodup_numbered : (numbered number declarations).Nodup := by
  induction declarations generalizing number with
  | nil => exact List.nodup_nil
  | cons d rest ih =>
    refine List.nodup_cons.2 ⟨fun h => ?_, ih⟩
    have hle : number + 1 ≤ number := number_le_of_mem_numbered h
    omega

/-! ## First fields and repeats -/

/-- Whether a field is the first one of its tag among some fields. -/
def IsFirst (fs : List Field) (f : Field) : Prop := fs.find? (·.name == f.name) = some f

instance : DecidablePred (IsFirst fs) := fun _ => inferInstanceAs (Decidable (_ = _))

/-- The fields that are the first ones of their tags. -/
def firsts (fs : List Field) : List Field := fs.filter (IsFirst fs ·)

/-- The fields whose tags come earlier, too. -/
def repeats (fs : List Field) : List Field := fs.filter (¬ IsFirst fs ·)

/-- The first tag that comes again: all tags before it differ, and it is one of them. -/
def FirstRepeated (fs : List Field) (tag : String) : Prop :=
  ∃ before f after, fs = before ++ f :: after ∧ (before.map Field.name).Nodup ∧
    f.name ∈ before.map Field.name ∧ f.name = tag

theorem mem_firsts : f ∈ firsts fs ↔ f ∈ fs ∧ IsFirst fs f := by
  rw [firsts, List.mem_filter, decide_eq_true_iff]

/-- What is found by a tag is the first field that has it. -/
theorem isFirst_of_find? (h : fs.find? (·.name == name) = some f) :
    f ∈ fs ∧ f.name = name ∧ IsFirst fs f := by
  have hname : f.name = name := by simpa using List.find?_some h
  refine ⟨List.mem_of_find?_eq_some h, hname, ?_⟩
  rw [IsFirst, hname]
  exact h

/-- A tag that some field has is found. -/
theorem exists_find? (h : f ∈ fs) (hname : f.name = name) :
    ∃ g, fs.find? (·.name == name) = some g :=
  Option.isSome_iff_exists.1 (List.find?_isSome.2 ⟨f, h, beq_iff_eq.2 hname⟩)

/-- A tag has one first field. -/
theorem IsFirst.eq (hf : IsFirst fs f) (hg : IsFirst fs g) (h : f.name = g.name) : f = g := by
  rw [IsFirst, h] at hf
  exact Option.some.inj (hf.symm.trans hg)

/-- A search by tag ends at the same field among the first fields. -/
theorem find?_firsts (fs : List Field) (name : String) :
    (firsts fs).find? (·.name == name) = fs.find? (·.name == name) := by
  cases h : fs.find? (·.name == name) with
  | none =>
    rw [List.find?_eq_none] at h ⊢
    exact fun g hg => h g (mem_firsts.1 hg).1
  | some f =>
    obtain ⟨hmem, hname, hfirst⟩ := isFirst_of_find? h
    obtain ⟨g, hg⟩ := exists_find? (mem_firsts.2 ⟨hmem, hfirst⟩) hname
    obtain ⟨hgmem, hgname, -⟩ := isFirst_of_find? hg
    rw [hg, (mem_firsts.1 hgmem).2.eq hfirst (hgname.trans hname.symm)]

theorem nodup_names_firsts (h : fs.Nodup) : ((firsts fs).map Field.name).Nodup :=
  (h.filter _).map_on fun _ hf _ hg => (mem_firsts.1 hf).2.eq (mem_firsts.1 hg).2

/-- All tags differ if all fields are first ones. -/
theorem nodup_names_iff (h : fs.Nodup) :
    (fs.map Field.name).Nodup ↔ ∀ f ∈ fs, IsFirst fs f := by
  constructor
  · intro hnames f hf
    obtain ⟨g, hg⟩ := exists_find? hf rfl
    obtain ⟨hgmem, hgname, -⟩ := isFirst_of_find? hg
    rw [IsFirst, hg, List.inj_on_of_nodup_map hnames hgmem hf hgname]
  · intro hfirst
    exact h.map_on fun f hf g hg => (hfirst f hf).eq (hfirst g hg)

/-- What comes later does not make a field first, nor a repeat. -/
theorem isFirst_append (h : f ∈ fs) : IsFirst (fs ++ gs) f ↔ IsFirst fs f := by
  obtain ⟨g, hg⟩ := exists_find? h rfl
  rw [IsFirst, IsFirst, List.find?_append, hg, Option.some_or]

/-- A new field is first if its tag is new. -/
theorem isFirst_concat (h : f ∉ fs) : IsFirst (fs ++ [f]) f ↔ f.name ∉ fs.map Field.name := by
  rw [IsFirst, List.find?_append, List.find?_singleton, if_pos (beq_self_eq_true f.name)]
  cases hfind : fs.find? (·.name == f.name) with
  | none =>
    refine iff_of_true rfl fun hmem => ?_
    obtain ⟨g, hg, hname⟩ := List.mem_map.1 hmem
    exact List.find?_eq_none.1 hfind g hg (beq_iff_eq.2 hname)
  | some g =>
    obtain ⟨hg, hname, -⟩ := isFirst_of_find? hfind
    refine iff_of_false (fun heq => h (Option.some.inj heq ▸ hg)) fun hnew => ?_
    exact hnew (List.mem_map.2 ⟨g, hg, hname⟩)

theorem firsts_concat (h : f ∉ fs) : firsts (fs ++ [f]) =
    if f.name ∈ fs.map Field.name then firsts fs else firsts fs ++ [f] := by
  have hold : fs.filter (IsFirst (fs ++ [f]) ·) = firsts fs :=
    List.filter_congr fun g hg => decide_eq_decide.2 (isFirst_append hg)
  rw [firsts, List.filter_append, hold, List.filter_singleton]
  split_ifs with hmem
  · rw [decide_eq_false fun hfirst => (isFirst_concat h).1 hfirst hmem, cond_false,
      List.append_nil]
  · rw [decide_eq_true ((isFirst_concat h).2 hmem), cond_true]

theorem repeats_concat (h : f ∉ fs) : repeats (fs ++ [f]) =
    if f.name ∈ fs.map Field.name then repeats fs ++ [f] else repeats fs := by
  have hold : fs.filter (¬ IsFirst (fs ++ [f]) ·) = repeats fs :=
    List.filter_congr fun g hg => decide_eq_decide.2 (not_congr (isFirst_append hg))
  rw [repeats, List.filter_append, hold, List.filter_singleton]
  split_ifs with hmem
  · have hrepeat : ¬ IsFirst (fs ++ [f]) f := fun hfirst => (isFirst_concat h).1 hfirst hmem
    rw [decide_eq_true hrepeat, cond_true]
  · rw [decide_eq_false (not_not_intro ((isFirst_concat h).2 hmem)), cond_false,
      List.append_nil]

theorem length_firsts_add_length_repeats (fs : List Field) :
    (firsts fs).length + (repeats fs).length = fs.length := by
  have hsum := fs.length_eq_length_filter_add (IsFirst fs ·)
  simp only [firsts, repeats, decide_not, hsum.symm]

theorem repeats_eq_nil_iff (h : fs.Nodup) : repeats fs = [] ↔ (fs.map Field.name).Nodup := by
  rw [nodup_names_iff h, repeats, List.filter_eq_nil_iff]
  simp only [decide_eq_true_iff, not_not]

/-- **The first repeat** has the first tag that comes again. -/
theorem firstRepeated_iff (h : fs.Nodup) :
    FirstRepeated fs tag ↔ (repeats fs).head?.map Field.name = some tag := by
  have hsplit {before after : List Field} {f : Field} (heq : fs = before ++ f :: after) :
      ((∀ g ∈ before, IsFirst fs g) ↔ (before.map Field.name).Nodup) ∧
        (IsFirst fs f ↔ f.name ∉ before.map Field.name) := by
    subst heq
    obtain ⟨hbefore, -, hdisjoint⟩ := List.nodup_append.1 h
    constructor
    · rw [nodup_names_iff hbefore]
      exact forall₂_congr fun g hg => isFirst_append hg
    · rw [← isFirst_concat fun hf => hdisjoint f hf f List.mem_cons_self rfl,
        List.append_cons, isFirst_append (List.mem_append_right _ List.mem_cons_self)]
  simp only [FirstRepeated, repeats, List.head?_filter, Option.map_eq_some_iff,
    List.find?_eq_some_iff_append]
  constructor
  · rintro ⟨before, f, after, heq, hnodup, hmem, hname⟩
    obtain ⟨hfirsts, hf⟩ := hsplit heq
    refine ⟨f, ⟨?_, before, after, heq, fun g hg => ?_⟩, hname⟩
    · exact decide_eq_true fun hfirst => hf.1 hfirst hmem
    · simpa using hfirsts.2 hnodup g hg
  · rintro ⟨f, ⟨hrepeat, before, after, heq, hbefore⟩, hname⟩
    obtain ⟨hfirsts, hf⟩ := hsplit heq
    refine ⟨before, f, after, heq, hfirsts.1 fun g hg => ?_, ?_, hname⟩
    · simpa using hbefore g hg
    · by_contra hnot
      exact of_decide_eq_true hrepeat (hf.2 hnot)

end Field

/-! ## Indices -/

/-- Whether an index leads from every key to the place of the first field that has it, and
to no place where there is no field. -/
structure Indexes (key : Field → String) (fs : List Field) (index : List (String × Nat)) :
    Prop where
  lookup_eq : ∀ k, index.lookup k = fs.findIdx? (key · == k)
  inRange : ∀ entry ∈ index, entry.2 < fs.length

namespace Indexes

variable {key : Field → String} {fs : List Field} {index : List (String × Nat)} {f : Field}
  {k : String}

theorem empty : Indexes key [] [] := ⟨fun _ => rfl, List.forall_mem_nil _⟩

theorem isSome_lookup_iff (h : Indexes key fs index) :
    (index.lookup k).isSome = true ↔ ∃ f ∈ fs, key f = k := by
  simp only [h.lookup_eq, List.findIdx?_isSome, List.any_eq_true, beq_iff_eq]

theorem findIdx?_concat : (fs ++ [f]).findIdx? (key · == k) =
    (fs.findIdx? (key · == k)).or (if key f == k then some fs.length else none) := by
  rw [List.findIdx?_append, List.findIdx?_singleton]
  split_ifs
  · rw [Option.map_some, Nat.zero_add]
  · rfl

/-- A field is added to the index. -/
theorem push (h : Indexes key fs index) :
    Indexes key (fs ++ [f]) (index ++ [(key f, fs.length)]) where
  lookup_eq k := by
    rw [List.lookup_append, findIdx?_concat, h.lookup_eq, List.lookup_cons, BEq.comm]
    cases key f == k <;> rfl
  inRange := by
    rw [List.length_append, List.length_singleton]
    refine List.forall_mem_append.2 ⟨fun entry hentry => ?_, ?_⟩
    · exact Nat.lt_succ_of_lt (h.inRange entry hentry)
    · exact List.forall_mem_singleton.2 (Nat.lt_succ_self _)

/-- A field is not added if an earlier one has its key. -/
theorem skip (h : Indexes key fs index) (hkey : (index.lookup (key f)).isSome = true) :
    Indexes key (fs ++ [f]) index where
  lookup_eq k := by
    rw [findIdx?_concat, ← h.lookup_eq]
    split_ifs with hk
    · rw [beq_iff_eq] at hk
      rw [← hk, Option.or_of_isSome hkey]
    · rw [Option.or_none]
  inRange entry hentry := by
    rw [List.length_append]
    exact Nat.lt_add_right _ (h.inRange entry hentry)

/-- The place in the index is where the search ends. -/
theorem lookup_bind (h : Indexes key fs index) :
    ((index.lookup k).bind fun place => fs[place]?) = fs.find? (key · == k) := by
  rw [List.find?_eq_bind_findIdx?_getElem?, h.lookup_eq]

end Indexes

/-! ## Field sets -/

namespace FieldSet

variable {s : FieldSet} {fs : List Field} {name member : String} {type : RecordType} {number : Nat}
  {declarations : List (String × String)}

/-- Whether a set is what the declarations of some fields make. -/
structure Holds (s : FieldSet) (fs : List Field) : Prop where
  fields_eq : s.fields = Field.firsts fs
  duplicates_eq : s.duplicates = (Field.repeats fs).map Field.name
  byName : Indexes Field.name s.fields s.byName
  byMember : Indexes (fun f => lowered f.member) s.fields s.byMember

theorem holds_empty (type : RecordType) : (empty type).Holds [] :=
  ⟨rfl, rfl, .empty, .empty⟩

/-- The index by tags tells whether a tag is new. -/
theorem Holds.isSome_lookup_iff (h : s.Holds fs) :
    (s.byName.lookup name).isSome = true ↔ name ∈ fs.map Field.name := by
  have hfind := congrArg Option.isSome (Field.find?_firsts fs name)
  rw [Bool.eq_iff_iff, List.find?_isSome, List.find?_isSome] at hfind
  simp only [beq_iff_eq] at hfind
  rw [h.byName.isSome_lookup_iff, h.fields_eq, hfind, List.mem_map]

/-- **A declaration more is a field more**, if its number is new. -/
theorem Holds.declare (h : s.Holds fs) (hnew : ∀ f ∈ fs, f.number < number) :
    (s.declare name member number).Holds (fs ++ [⟨name, member, number⟩]) := by
  have hnotMem : (⟨name, member, number⟩ : Field) ∉ fs := fun hmem =>
    Nat.lt_irrefl _ (hnew _ hmem)
  have hfirsts := Field.firsts_concat hnotMem
  have hrepeats := Field.repeats_concat hnotMem
  rw [FieldSet.declare]
  split
  · next hname =>
    have hmem := h.isSome_lookup_iff.1 hname
    rw [if_pos hmem] at hfirsts hrepeats
    refine ⟨h.fields_eq.trans hfirsts.symm, ?_, h.byName, h.byMember⟩
    rw [hrepeats, List.map_append, ← h.duplicates_eq]
    rfl
  · next hname =>
    have hmem := mt h.isSome_lookup_iff.2 hname
    rw [if_neg hmem] at hfirsts hrepeats
    refine ⟨?_, h.duplicates_eq.trans (congrArg _ hrepeats.symm), h.byName.push, ?_⟩
    · rw [hfirsts, ← h.fields_eq]
    · dsimp only
      split
      · next hmember => exact h.byMember.skip hmember
      · exact h.byMember.push

/-- **A set is what all of its declarations make.** -/
theorem Holds.declareAll (h : s.Holds fs) (hnew : ∀ f ∈ fs, f.number < number) :
    (s.declareAll number declarations).Holds (fs ++ Field.numbered number declarations) := by
  induction declarations generalizing s fs number with
  | nil => rwa [Field.numbered, List.append_nil]
  | cons d rest ih =>
    rw [Field.numbered, List.append_cons]
    refine ih (h.declare hnew) (List.forall_mem_append.2 ⟨fun f hf => ?_, ?_⟩)
    · exact Nat.lt_succ_of_lt (hnew f hf)
    · exact List.forall_mem_singleton.2 (Nat.lt_succ_self number)

theorem holds_build (type : RecordType) (declarations : List (String × String)) :
    (build type declarations).Holds (Field.numbered 0 declarations) :=
  (holds_empty type).declareAll (List.forall_mem_nil _)

/-- **A name stands for the field of this very tag, or else for the earliest field whose
member differs from it at most in letter case.** -/
theorem Holds.lookup_eq (h : s.Holds fs) (name : String) :
    s.lookup name = (fs.find? (·.name == name)).or
      (s.fields.find? fun f => sameUpToCase f.member name) := by
  have hcase : (fun f : Field => sameUpToCase f.member name) =
      fun f => lowered f.member == lowered name := by
    funext f
    rw [Bool.eq_iff_iff, sameUpToCase_iff, beq_iff_eq]
  rw [← Field.find?_firsts, ← h.fields_eq, hcase, ← h.byName.lookup_bind,
    ← h.byMember.lookup_bind]
  rw [lookup]
  cases hplace : s.byName.lookup name with
  | none => rfl
  | some place =>
    have hlt : place < s.fields.length :=
      (List.findIdx?_eq_some_iff_findIdx_eq.1 ((h.byName.lookup_eq name).symm.trans hplace)).1
    have hsome : s.fields[place]?.isSome = true := by
      rw [List.getElem?_eq_getElem hlt, Option.isSome_some]
    rw [Option.bind_some, Option.or_of_isSome hsome]
    rfl

theorem type_declare : (s.declare name member number).type = s.type := by
  rw [declare]
  split_ifs <;> rfl

theorem type_declareAll : (s.declareAll number declarations).type = s.type := by
  induction declarations generalizing s number with
  | nil => rfl
  | cons d rest ih => exact ih.trans type_declare

@[simp] theorem type_build : (build type declarations).type = type :=
  type_declareAll

end FieldSet

end RecordQuery
