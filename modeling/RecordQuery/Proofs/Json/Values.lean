import RecordQuery.Proofs.Json.Decoding
/-!
# Values that were read

A value that was read nests no deeper than is read, and the members of its objects
stand in the order of their keys, each key once. Both are what its outline needs to
be read as the value (`ofOutline?_outline`): so the value is read again from the
text that it is written as (`Format.Conforms.parse?_text`).
-/

namespace RecordQuery

namespace Json

/-! ## Members in order -/

section Members

variable {α : Type} {members sorted : List (String × α)} {m : String × α}

/-- A key behind all others is put behind them. -/
theorem put_of_forall_lt {key : String} {value : α} (h : ∀ a ∈ members, a.1 < key) :
    put key value members = members ++ [(key, value)] := by
  induction members with
  | nil => rfl
  | cons first rest ih =>
    obtain ⟨hfirst, hrest⟩ := List.forall_mem_cons.1 h
    have hne : key ≠ first.1 := fun heq => String.lt_irrefl first.1 (heq ▸ hfirst)
    have hlt : ¬ key < first.1 := fun hlt => String.lt_irrefl key (String.lt_trans hlt hfirst)
    rw [put, if_neg hne, if_neg hlt, ih hrest, List.cons_append]

/-- Members in order that are put behind others are the rest of them. -/
theorem foldl_put_of_sorted (h : Sorted (sorted ++ members)) :
    members.foldl (fun s m => put m.1 m.2 s) sorted = sorted ++ members := by
  induction members generalizing sorted with
  | nil => rw [List.append_nil, List.foldl_nil]
  | cons m rest ih =>
    have hlast : ∀ a ∈ sorted, a.1 < m.1 := fun a ha =>
      (List.pairwise_append.1 h).2.2 a ha m List.mem_cons_self
    have hsplit := List.append_cons sorted m rest
    rw [hsplit] at h ⊢
    rw [List.foldl_cons, put_of_forall_lt hlast, ih h]

/-- **Members in order are sorted as they are.** -/
theorem sortMembers_of_sorted (h : Sorted members) : sortMembers members = members := by
  have hnil : Sorted ([] ++ members) := h
  exact foldl_put_of_sorted hnil

theorem mem_of_mem_foldl_put (h : m ∈ members.foldl (fun s m => put m.1 m.2 s) sorted) :
    m ∈ sorted ∨ m ∈ members := by
  induction members generalizing sorted with
  | nil => exact .inl h
  | cons first rest ih =>
    rcases ih h with h | h
    · rcases mem_put h with rfl | h
      · exact .inr List.mem_cons_self
      · exact .inl h
    · exact .inr (List.mem_cons_of_mem first h)

/-- Sorting members adds none. -/
theorem mem_of_mem_sortMembers (h : m ∈ sortMembers members) : m ∈ members :=
  (mem_of_mem_foldl_put h).resolve_left List.not_mem_nil

end Members

/-! ## Values -/

/-- Members that are read again one by one are read again. -/
theorem membersOfOutlines?_memberOutlines {limit : Nat} {members : List (String × Value)}
    (h : ∀ m ∈ members, Value.ofOutline? limit m.2.outline = some m.2) :
    membersOfOutlines? limit (memberOutlines members) = some members := by
  induction members with
  | nil => rfl
  | cons m rest ih =>
    obtain ⟨hm, hrest⟩ := List.forall_mem_cons.1 h
    simp only [memberOutlines, membersOfOutlines?, hm, ih hrest, bind, Option.bind_some, pure]

mutual

/-- **A value that was read from an outline is read from its own**, at whatever
depth it stands. -/
theorem ofOutline?_outline {limit : Nat} {v : Value} :
    (o : Outline) → Value.ofOutline? limit o = some v → Value.ofOutline? limit v.outline = some v
  | .null, h => by
    rw [Value.ofOutline?] at h
    cases h
    rfl
  | .bool b, h => by
    rw [Value.ofOutline?] at h
    cases h
    rfl
  | .number n, h => by
    rw [Value.ofOutline?] at h
    obtain ⟨n, -, rfl⟩ := Option.map_eq_some_iff.1 h
    rfl
  | .string s, h => by
    rw [Value.ofOutline?] at h
    obtain ⟨s, -, rfl⟩ := Option.map_eq_some_iff.1 h
    rfl
  | .array items, h => by
    rw [Value.ofOutline?] at h
    split at h
    · cases h
    · next hlimit =>
      obtain ⟨vs, hvs, rfl⟩ := Option.map_eq_some_iff.1 h
      rw [Value.outline, Value.ofOutline?, if_neg hlimit, valuesOfOutlines?_outlines items hvs]
      rfl
  | .object members, h => by
    rw [Value.ofOutline?] at h
    split at h
    · cases h
    · next hlimit =>
      obtain ⟨ms, hms, rfl⟩ := Option.map_eq_some_iff.1 h
      have hagain : ∀ m ∈ sortMembers ms, Value.ofOutline? (limit - 1) m.2.outline = some m.2 :=
        fun m hm => outline_of_membersOfOutlines? members hms m (mem_of_mem_sortMembers hm)
      rw [Value.ofMembers, Value.outline, Value.ofOutline?, if_neg hlimit,
        membersOfOutlines?_memberOutlines hagain, Option.map_some, Value.ofMembers,
        sortMembers_of_sorted (sorted_sortMembers ms)]

/-- The values of an array are read from their outlines as well. -/
theorem valuesOfOutlines?_outlines {limit : Nat} {vs : List Value} :
    (os : List Outline) → valuesOfOutlines? limit os = some vs →
      valuesOfOutlines? limit (outlines vs) = some vs
  | [], h => by
    rw [valuesOfOutlines?] at h
    cases h
    rfl
  | o :: rest, h => by
    simp only [valuesOfOutlines?, bind, pure, Option.bind_eq_some_iff, Option.some.injEq] at h
    obtain ⟨v, hv, vs, hvs, rfl⟩ := h
    simp only [outlines, valuesOfOutlines?, ofOutline?_outline o hv,
      valuesOfOutlines?_outlines rest hvs, bind, Option.bind_some, pure]

/-- The value of each member of an object is read from its outline as well. -/
theorem outline_of_membersOfOutlines? {limit : Nat} {members : List (String × Value)} :
    (os : List (Option String × Outline)) → membersOfOutlines? limit os = some members →
      ∀ m ∈ members, Value.ofOutline? limit m.2.outline = some m.2
  | [], h => by
    rw [membersOfOutlines?] at h
    cases h
    exact nofun
  | (key, o) :: rest, h => by
    simp only [membersOfOutlines?, bind, pure, Option.bind_eq_some_iff, Option.some.injEq] at h
    obtain ⟨k, -, v, hv, ms, hms, rfl⟩ := h
    exact List.forall_mem_cons.2
      ⟨ofOutline?_outline o hv, outline_of_membersOfOutlines? rest hms⟩

end

/-- **A value that was read is read again from its own text**, if its numbers are found
again in their numerals. -/
theorem Format.Conforms.parse?_text [Format] (hformat : Format.Conforms) {text : String}
    {v : Value} (hback : ∀ n ∈ v.numbers, n.ReadBack) (h : parse? text = some v) :
    parse? v.text = some v := by
  obtain ⟨o, -, ho⟩ := Option.bind_eq_some_iff.1 h
  rw [parse?, hformat.read_text hback]
  exact ofOutline?_outline o ho

end Json

end RecordQuery
