import Mathlib.Data.List.Nodup
import RecordQuery.Json.Decoding
import RecordQuery.Proofs.Json.Reading
/-!
# What decoders find in the outline of a value

A record written as an object with a key for each of its fields gives each field
back by its name (`fields?_object`). Lists of strings and names are given back
too, where the limit leaves room for the array.
-/

namespace RecordQuery

namespace Json

theorem outlines_eq_map (items : List Value) : outlines items = items.map Value.outline := by
  induction items with
  | nil => rfl
  | cons v rest ih => rw [outlines, ih, List.map_cons]

theorem memberOutlines_eq_map (members : List (String × Value)) :
    memberOutlines members = members.map fun m => (some m.1, m.2.outline) := by
  induction members with
  | nil => rfl
  | cons m rest ih => rw [memberOutlines, ih, List.map_cons]

/-- A step for every item, each of which succeeds. -/
theorem mapM_eq_some {α β : Type} {f : α → Option β} {g : α → β} {l : List α}
    (h : ∀ a ∈ l, f a = some (g a)) : l.mapM f = some (l.map g) := by
  induction l with
  | nil => rfl
  | cons a rest ih =>
    rw [List.mapM_cons, h a List.mem_cons_self, ih fun b hb => h b (List.mem_cons_of_mem _ hb)]
    rfl

theorem lookup_map {α β : Type} (f : α → β) (members : List (String × α)) (name : String) :
    (members.map fun m => (m.1, f m.2)).lookup name = (members.lookup name).map f := by
  induction members with
  | nil => rfl
  | cons m rest ih =>
    rw [List.map_cons, List.lookup_cons, List.lookup_cons, ih]
    split <;> rfl

namespace Outline

variable {limit : Nat}

theorem members?_object (hlimit : limit ≠ 0) (members : List (String × Value)) :
    (Value.object members).outline.members? limit =
      some (members.map fun m => (m.1, m.2.outline)) := by
  rw [Value.outline, members?, if_neg hlimit, memberOutlines_eq_map, List.mapM_map]
  exact mapM_eq_some fun _ _ => rfl

/-- **The fields of an object are its members.** -/
theorem fields?_object (hlimit : limit ≠ 0) {members : List (String × Value)}
    (hkeys : (members.map Prod.fst).Nodup) (names : List String) :
    (Value.object members).outline.fields? limit names =
      some fun name => (members.lookup name).map Value.outline := by
  have honce : ∀ name, ((members.map fun m => (m.1, m.2.outline)).filter
      fun m => m.1 == name).length ≤ 1 := by
    intro name
    have hcount := List.nodup_iff_count_le_one.1 hkeys name
    rw [List.count_eq_length_filter, List.filter_map, List.length_map] at hcount
    rwa [List.filter_map, List.length_map]
  have hmembers := members?_object hlimit members
  rw [Value.outline] at hmembers ⊢
  simp only [fields?, hmembers, bind, Option.bind_some]
  rw [if_pos (List.all_eq_true.2 fun name _ => decide_eq_true (honce name))]
  congr 1
  funext name
  exact lookup_map _ members name

/-- A list of strings is read if there is room for the array. -/
theorem strings?_ofStrings (limit : Nat) (ss : List String) :
    (Value.ofStrings ss).outline.strings? limit = if limit = 0 then none else some ss := by
  have hstrings := mapM_eq_some (f := fun s => string? (Value.string s).outline) (g := id)
    fun s (_ : s ∈ ss) => rfl
  rw [Value.ofStrings, Value.outline, outlines_eq_map, strings?, items?]
  split
  · rfl
  · show ((ss.map Value.string).map Value.outline).mapM string? = some ss
    rw [List.map_map, List.mapM_map]
    exact hstrings.trans (congrArg some (List.map_id ss))

end Outline

end Json

end RecordQuery
