import RecordQuery.Proofs.Json.Values
/-!
# Members in another order

Outlines are `Rearranged` if they differ in the order of the members of objects, at
any depth, where no key occurs twice. Reading puts the members in the order of their
keys, so it cannot tell such outlines apart (`Outline.Rearranged.ofOutline?_eq`).
-/

namespace RecordQuery

namespace Json

/-! ## Putting in another order -/

section Members

variable {α : Type} {key key' : String} {value value' : α}
variable {rest members members' : List (String × α)}

theorem put_cons_self : put key value ((key, value') :: rest) = (key, value) :: rest := by
  rw [put, if_pos rfl]

theorem put_cons_of_lt (h : key < key') :
    put key value ((key', value') :: rest) = (key, value) :: (key', value') :: rest := by
  have hne : key ≠ key' := fun heq => String.lt_irrefl key (heq ▸ h)
  rw [put, if_neg hne, if_pos h]

theorem put_cons_of_gt (h : key' < key) :
    put key value ((key', value') :: rest) = (key', value') :: put key value rest := by
  have hne : key ≠ key' := fun heq => String.lt_irrefl key (heq ▸ h)
  rw [put, if_neg hne, if_neg fun hlt => String.lt_irrefl key (String.lt_trans hlt h)]

/-- Two strings are equal, or one comes before the other. -/
theorem lt_or_eq_or_gt (a b : String) : a < b ∨ a = b ∨ b < a := by
  by_cases hlt : a < b
  · exact .inl hlt
  by_cases heq : a = b
  · exact .inr (.inl heq)
  · exact .inr (.inr (lt_of_not_lt_of_ne heq hlt))

/-- The lesser of two keys may as well be put last. -/
theorem put_comm_of_lt (h : key < key') (value value' : α) (members : List (String × α)) :
    put key value (put key' value' members) = put key' value' (put key value members) := by
  induction members with
  | nil =>
    show put key value [(key', value')] = put key' value' [(key, value)]
    rw [put_cons_of_lt h, put_cons_of_gt h]
    rfl
  | cons first rest ih =>
    obtain ⟨k, v⟩ := first
    -- where `key` belongs in front of `k`, behind it, or in its place
    rcases lt_or_eq_or_gt key k with hk | rfl | hk
    · rcases lt_or_eq_or_gt key' k with hk' | rfl | hk'
      · rw [put_cons_of_lt hk', put_cons_of_lt hk, put_cons_of_lt h, put_cons_of_gt h,
          put_cons_of_lt hk']
      · rw [put_cons_self, put_cons_of_lt hk, put_cons_of_lt hk, put_cons_of_gt hk, put_cons_self]
      · rw [put_cons_of_gt hk', put_cons_of_lt hk, put_cons_of_lt hk, put_cons_of_gt h,
          put_cons_of_gt hk']
    · rw [put_cons_of_gt h, put_cons_self, put_cons_self, put_cons_of_gt h]
    · have hk' := String.lt_trans hk h
      rw [put_cons_of_gt hk', put_cons_of_gt hk, put_cons_of_gt hk, put_cons_of_gt hk', ih]

/-- **Two keys may be put in either order.** -/
theorem put_comm (hne : key ≠ key') (value value' : α) (members : List (String × α)) :
    put key value (put key' value' members) = put key' value' (put key value members) := by
  rcases lt_or_eq_or_gt key key' with h | h | h
  · exact put_comm_of_lt h value value' members
  · exact absurd h hne
  · exact (put_comm_of_lt h value' value members).symm

/-- **Members are sorted alike in any order**, if no key occurs twice. -/
theorem sortMembers_perm (hkeys : (members.map Prod.fst).Nodup) (h : members.Perm members') :
    sortMembers members = sortMembers members' := by
  refine h.foldl_eq' (fun m hm n hn sorted => ?_) []
  by_cases heq : m.1 = n.1
  · rw [List.inj_on_of_nodup_map hkeys hm hn heq]
  · exact (put_comm heq m.2 n.2 sorted).symm

end Members

/-! ## Steps in another order -/

section Steps

variable {α β : Type} {f : α → Option β} {l l' : List α}

/-- Steps that are alike one by one give the same. -/
theorem mapM_congr_getElem (hlength : l.length = l'.length)
    (h : ∀ i (hi : i < l.length) (hi' : i < l'.length), f l[i] = f l'[i]) :
    l.mapM f = l'.mapM f := by
  have hmap : l.map f = l'.map f := by
    refine List.ext_getElem (by simpa using hlength) fun i hi hi' => ?_
    rw [List.length_map] at hi hi'
    rw [List.getElem_map, List.getElem_map, h i hi hi']
  have hid (k : List α) : k.mapM f = (k.map f).mapM id := by rw [List.mapM_map]; rfl
  rw [hid, hid, hmap]

/-- Steps in another order succeed together, and give the same in another order. -/
theorem mapM_perm (h : l.Perm l') : Option.Rel List.Perm (l.mapM f) (l'.mapM f) := by
  induction h with
  | nil => exact .some (.refl [])
  | @cons a l l' _ ih =>
    rw [List.mapM_cons, List.mapM_cons]
    cases f a with
    | none => exact .none
    | some b =>
      generalize l.mapM f = r, l'.mapM f = r' at ih ⊢
      cases ih with
      | none => exact .none
      | some h => exact .some (h.cons b)
  | swap a b l =>
    simp only [List.mapM_cons]
    -- all three succeed, or nothing is given either way
    cases f a <;> cases f b <;> cases l.mapM f
    case some.some.some a b bs => exact .some (.swap a b bs)
    all_goals exact .none
  | @trans l m l' _ _ ih ih' =>
    generalize l.mapM f = r, m.mapM f = s, l'.mapM f = r' at ih ih' ⊢
    cases ih with
    | none => exact ih'
    | some h =>
      cases ih' with
      | some h' => exact .some (h.trans h')

end Steps

/-! ## Outlines -/

/-- The values of outlines are read one by one. -/
theorem valuesOfOutlines?_eq_mapM (limit : Nat) (items : List Outline) :
    valuesOfOutlines? limit items = items.mapM (Value.ofOutline? limit) := by
  induction items with
  | nil => rfl
  | cons o rest ih => rw [valuesOfOutlines?, ih, List.mapM_cons]

/-- The member that an outline with its key stands for. -/
def memberOfOutline? (limit : Nat) (m : Option String × Outline) : Option (String × Value) := do
  return ((← m.1), (← Value.ofOutline? limit m.2))

/-- Members are read one by one as well. -/
theorem membersOfOutlines?_eq_mapM (limit : Nat) (members : List (Option String × Outline)) :
    membersOfOutlines? limit members = members.mapM (memberOfOutline? limit) := by
  induction members with
  | nil => rfl
  | cons m rest ih =>
    obtain ⟨key, o⟩ := m
    rw [membersOfOutlines?, ih, List.mapM_cons, memberOfOutline?]
    cases key <;> cases Value.ofOutline? limit o <;> rfl

/-- Members keep their keys. -/
theorem keys_of_membersOfOutlines? {limit : Nat} {members : List (Option String × Outline)}
    {ms : List (String × Value)} (h : membersOfOutlines? limit members = some ms) :
    ms.map Prod.fst = members.filterMap Prod.fst := by
  induction members generalizing ms with
  | nil =>
    cases h
    rfl
  | cons m rest ih =>
    obtain ⟨key, o⟩ := m
    simp only [membersOfOutlines?, bind, pure, Option.bind_eq_some_iff, Option.some.injEq] at h
    obtain ⟨k, rfl, v, -, others, hothers, rfl⟩ := h
    rw [List.map_cons, ih hothers]
    rfl

/-- Members in another order give the same object. -/
theorem ofMembers_of_rel {r r' : Option (List (String × Value))} (hrel : Option.Rel List.Perm r r')
    (hkeys : ∀ members, r = some members → (members.map Prod.fst).Nodup) :
    r'.map Value.ofMembers = r.map Value.ofMembers := by
  cases hrel with
  | none => rfl
  | @some members members' hperm =>
    rw [Option.map_some, Option.map_some, Value.ofMembers, Value.ofMembers,
      sortMembers_perm (hkeys members rfl) hperm]

namespace Outline

/-- Outlines that differ in the order of members, at any depth, where no key occurs
twice. -/
inductive Rearranged : Outline → Outline → Prop
  | refl (o : Outline) : Rearranged o o
  | array {items items' : List Outline} (hlength : items.length = items'.length)
      (h : ∀ i (hi : i < items.length) (hi' : i < items'.length),
        Rearranged items[i] items'[i]) : Rearranged (.array items) (.array items')
  | object {members between members' : List (Option String × Outline)}
      (hdistinct : (members.filterMap Prod.fst).Nodup)
      (hkeys : members.map Prod.fst = between.map Prod.fst)
      (h : ∀ i (hi : i < members.length) (hi' : i < between.length),
        Rearranged members[i].2 between[i].2)
      (hperm : between.Perm members') : Rearranged (.object members) (.object members')

/-- **Outlines whose members are in another order are read as the same value**, or
neither of them is read. -/
theorem Rearranged.ofOutline?_eq {o o' : Outline} (h : o.Rearranged o') (limit : Nat) :
    Value.ofOutline? limit o' = Value.ofOutline? limit o := by
  induction h generalizing limit with
  | refl o => rfl
  | array hlength _ ih =>
    rw [Value.ofOutline?, Value.ofOutline?, valuesOfOutlines?_eq_mapM, valuesOfOutlines?_eq_mapM,
      mapM_congr_getElem hlength fun i hi hi' => (ih i hi hi' (limit - 1)).symm]
  | @object members between members' hdistinct hkeys _ hperm ih =>
    have hlength : members.length = between.length := by simpa using congrArg List.length hkeys
    have hbetween : membersOfOutlines? (limit - 1) between =
        membersOfOutlines? (limit - 1) members := by
      rw [membersOfOutlines?_eq_mapM, membersOfOutlines?_eq_mapM]
      refine (mapM_congr_getElem hlength fun i hi hi' => ?_).symm
      have hkey : members[i].1 = between[i].1 := by
        have hi'' : i < (members.map Prod.fst).length := List.length_map Prod.fst ▸ hi
        simpa only [List.getElem_map] using List.getElem_of_eq hkeys hi''
      rw [memberOfOutline?, memberOfOutline?, hkey, ih i hi hi' (limit - 1)]
    have hrel : Option.Rel List.Perm (membersOfOutlines? (limit - 1) members)
        (membersOfOutlines? (limit - 1) members') := by
      rw [← hbetween, membersOfOutlines?_eq_mapM, membersOfOutlines?_eq_mapM]
      exact mapM_perm hperm
    have hvalue := ofMembers_of_rel hrel fun ms hms => keys_of_membersOfOutlines? hms ▸ hdistinct
    rw [Value.ofOutline?, Value.ofOutline?, hvalue]

/-- Of members with one key the last one counts, so these may not change places. -/
example : Value.ofOutline? 1 (.object [(some "a", .null), (some "a", .bool true)]) =
    some (.object [("a", .bool true)]) := rfl

end Outline

end Json

end RecordQuery
