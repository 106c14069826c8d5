/-!
# Members — values in the order of their keys

Members stand in the order of their keys, one for each key (`Sorted`). `put`
keeps them so, and looking up a key after a `put` finds what was put or what
was there before. `Members` holds a sorted list together with the proof.
-/

namespace RecordQuery

namespace Json

variable {α : Type}

/-- The members with one more, in the order of their keys. A member with the
same key gives way. -/
def put (key : String) (value : α) : List (String × α) → List (String × α)
  | [] => [(key, value)]
  | (k, v) :: rest =>
    if key = k then (key, value) :: rest
    else if key < k then (key, value) :: (k, v) :: rest
    else (k, v) :: put key value rest

/-- Members in the order of their keys. Of several with one key the last one
stays. -/
def sortMembers (members : List (String × α)) : List (String × α) :=
  members.foldl (fun sorted m => put m.1 m.2 sorted) []

/-- The member with a key. -/
def member? (key : String) (members : List (String × α)) : Option α :=
  (members.find? fun m => m.1 == key).map (·.2)

/-- Whether members stand in the order of their keys, each key once. -/
def Sorted (members : List (String × α)) : Prop := members.Pairwise fun a b => a.1 < b.1

/-! ## Sorted members stay sorted -/

/-- Of two different strings one comes first. -/
theorem lt_of_not_lt_of_ne {a b : String} (hne : a ≠ b) (hlt : ¬ a < b) : b < a :=
  Decidable.byContradiction fun h =>
    hne (String.le_antisymm (String.not_lt.1 h) (String.not_lt.1 hlt))

/-- What is among the members after a `put` was put or was there before. -/
theorem mem_put {key : String} {value : α} {m : String × α} {members : List (String × α)}
    (h : m ∈ put key value members) : m = (key, value) ∨ m ∈ members := by
  induction members with
  | nil => exact Or.inl (List.mem_singleton.1 h)
  | cons first rest ih =>
    simp only [put] at h
    split at h
    · exact (List.mem_cons.1 h).imp id (List.mem_cons_of_mem _)
    · split at h
      · exact List.mem_cons.1 h
      · rcases List.mem_cons.1 h with h | h
        · exact Or.inr (h ▸ List.mem_cons_self)
        · exact (ih h).imp id (List.mem_cons_of_mem _)

/-- **Putting keeps the order.** -/
theorem sorted_put (key : String) (value : α) {members : List (String × α)}
    (h : Sorted members) : Sorted (put key value members) := by
  induction members with
  | nil => exact List.pairwise_singleton _ _
  | cons first rest ih =>
    obtain ⟨hfirst, hrest⟩ := List.pairwise_cons.1 h
    simp only [put]
    split
    · next heq => exact List.pairwise_cons.2 ⟨fun m hm => heq ▸ hfirst m hm, hrest⟩
    · next hne =>
      split
      · next hlt =>
        refine List.pairwise_cons.2 ⟨fun m hm => ?_, h⟩
        rcases List.mem_cons.1 hm with hm | hm
        · exact hm ▸ hlt
        · exact String.lt_trans hlt (hfirst m hm)
      · next hlt =>
        refine List.pairwise_cons.2 ⟨fun m hm => ?_, ih hrest⟩
        rcases mem_put hm with hm | hm
        · exact hm ▸ lt_of_not_lt_of_ne hne hlt
        · exact hfirst m hm

/-- Putting many members keeps the order. -/
theorem sorted_foldl_put (members : List (String × α)) {sorted : List (String × α)}
    (h : Sorted sorted) : Sorted (members.foldl (fun s m => put m.1 m.2 s) sorted) := by
  induction members generalizing sorted with
  | nil => exact h
  | cons m rest ih => exact ih (sorted_put m.1 m.2 h)

/-- **Sorting members puts them in order.** -/
theorem sorted_sortMembers (members : List (String × α)) : Sorted (sortMembers members) :=
  sorted_foldl_put members List.Pairwise.nil

/-! ## Members with their order -/

/-- Members in the order of their keys, one for each key. -/
structure Members (α : Type) where
  list : List (String × α)
  sorted : Sorted list
deriving DecidableEq, Repr

namespace Members

/-- No members. -/
def empty : Members α := ⟨[], List.Pairwise.nil⟩

/-- The members of a list, of which the last one with a key counts. -/
def ofList (members : List (String × α)) : Members α :=
  ⟨sortMembers members, sorted_sortMembers members⟩

/-- The member with a key. -/
def get? (m : Members α) (key : String) : Option α := member? key m.list

/-- The members with one more, which replaces one with the same key. -/
def insert (m : Members α) (key : String) (value : α) : Members α :=
  ⟨put key value m.list, sorted_put key value m.sorted⟩

/-- The number of members. -/
def size (m : Members α) : Nat := m.list.length

/-- Whether there are no members. -/
def isEmpty (m : Members α) : Bool := m.list.isEmpty

end Members

end Json

end RecordQuery
