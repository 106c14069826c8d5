import RecordQuery.Filter.Tree
/-!
# Paths and their texts

A text is cut at its points into the segments of a path, none of which has a
point in it. So a path without points in its segments is read back from its
text, and a text always is, from its path.
-/

namespace RecordQuery

/-! ## Pieces -/

/-- No piece contains the separator. -/
theorem not_mem_of_mem_pieces {sep : Char} {cs p : List Char} (h : p ∈ pieces sep cs) :
    sep ∉ p := by
  induction cs generalizing p with
  | nil =>
    rw [pieces, List.mem_singleton] at h
    rw [h]
    exact List.not_mem_nil
  | cons c cs ih =>
    rw [pieces] at h
    split at h
    · rcases List.mem_cons.1 h with rfl | h
      · exact List.not_mem_nil
      · exact ih h
    · next hc =>
      split at h
      · next hnil => exact absurd hnil (pieces_ne_nil sep cs)
      · next q qs hq =>
        rw [hq] at ih
        rcases List.mem_cons.1 h with rfl | h
        · exact List.not_mem_cons_of_ne_of_not_mem (Ne.symm hc) (ih List.mem_cons_self)
        · exact ih (List.mem_cons_of_mem q h)

/-- A text without the separator is one piece. -/
theorem pieces_append {sep : Char} {p : List Char} (hp : sep ∉ p) (cs : List Char) :
    pieces sep (p ++ sep :: cs) = p :: pieces sep cs := by
  induction p with
  | nil => rw [List.nil_append, pieces, if_pos rfl]
  | cons c p ih =>
    rw [List.mem_cons, not_or] at hp
    rw [List.cons_append, pieces, if_neg (Ne.symm hp.1), ih hp.2]

theorem pieces_of_not_mem {sep : Char} {p : List Char} (hp : sep ∉ p) : pieces sep p = [p] := by
  induction p with
  | nil => rfl
  | cons c p ih =>
    rw [List.mem_cons, not_or] at hp
    rw [pieces, if_neg (Ne.symm hp.1), ih hp.2]

/-- **Joining loses nothing** where no piece contains the separator. -/
theorem pieces_join {sep : Char} {ps : List (List Char)} (hne : ps ≠ [])
    (hps : ∀ p ∈ ps, sep ∉ p) : pieces sep (join [sep] ps) = ps := by
  induction ps with
  | nil => exact absurd rfl hne
  | cons p ps ih =>
    have hp := hps p List.mem_cons_self
    cases ps with
    | nil => exact pieces_of_not_mem hp
    | cons q qs =>
      rw [join, List.append_assoc, List.singleton_append, pieces_append hp,
        ih (List.cons_ne_nil q qs) fun r hr => hps r (List.mem_cons_of_mem p hr)]
      exact nofun

/-! ## Paths -/

/-- A path whose segments have no points is read back from its text. -/
theorem piecesOf_pathText {path : List String} (hne : path ≠ [])
    (h : ∀ segment ∈ path, '.' ∉ segment.toList) : piecesOf '.' (pathText path) = path := by
  have hps : ∀ p ∈ path.map String.toList, '.' ∉ p := by
    intro p hp
    obtain ⟨segment, hs, rfl⟩ := List.mem_map.1 hp
    exact h segment hs
  have hdot : ".".toList = ['.'] := rfl
  rw [piecesOf, pathText, joined, String.toList_ofList, hdot,
    pieces_join (by simpa only [ne_eq, List.map_eq_nil_iff] using hne) hps, List.map_map]
  simp only [Function.comp_def, String.ofList_toList, List.map_id']

/-- Every text is the text of its pieces. -/
theorem pathText_piecesOf (s : String) : pathText (piecesOf '.' s) = s := by
  have hdot : ".".toList = ['.'] := rfl
  rw [pathText, joined, piecesOf, List.map_map, hdot]
  simp only [Function.comp_def, String.toList_ofList, List.map_id']
  rw [join_pieces, String.ofList_toList]

@[simp] theorem pathText_singleton (s : String) : pathText [s] = s := String.ofList_toList

/-- A path of one segment is the name of its field. -/
theorem Condition.field_of_path {c : Condition} {n : String} (h : c.path = [n]) : c.field = n := by
  rw [Condition.field, h, pathText_singleton]

/-- A text without points is a path of its own, and no other text is. -/
theorem piecesOf_singleton {s : String} (h : '.' ∉ s.toList) : piecesOf '.' s = [s] := by
  rw [piecesOf, pieces_of_not_mem h, List.map_singleton, String.ofList_toList]

theorem eq_of_piecesOf_singleton {s n : String} (h : piecesOf '.' s = [n]) : s = n := by
  rw [← pathText_piecesOf s, h, pathText_singleton]

theorem piecesOf_ne_nil (s : String) : piecesOf '.' s ≠ [] := by
  rw [piecesOf, ne_eq, List.map_eq_nil_iff]
  exact pieces_ne_nil '.' s.toList

theorem not_mem_of_mem_piecesOf {s segment : String} (h : segment ∈ piecesOf '.' s) :
    '.' ∉ segment.toList := by
  obtain ⟨p, hp, rfl⟩ := List.mem_map.1 h
  rw [String.toList_ofList]
  exact not_mem_of_mem_pieces hp

end RecordQuery
