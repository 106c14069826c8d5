/-!
# Pieces — texts cut at a separator and joined again

A text cut at a separator has one piece more than it has separators, so
joining the pieces gives the text back (`join_pieces`).
-/

namespace RecordQuery

/-- The pieces of a text between the occurrences of a separator. -/
def pieces (sep : Char) : List Char → List (List Char)
  | [] => [[]]
  | c :: cs =>
    if c = sep then [] :: pieces sep cs
    else match pieces sep cs with
      | [] => [[c]]
      | p :: ps => (c :: p) :: ps

/-- Texts joined by a separator. -/
def join (sep : List Char) : List (List Char) → List Char
  | [] => []
  | [p] => p
  | p :: ps => p ++ sep ++ join sep ps

/-- Strings joined by a separator. -/
def joined (sep : String) (ss : List String) : String :=
  String.ofList (join sep.toList (ss.map String.toList))

/-- The strings between the occurrences of a separator. -/
def piecesOf (sep : Char) (s : String) : List String := (pieces sep s.toList).map String.ofList

/-- A text has at least one piece. -/
theorem pieces_ne_nil (sep : Char) (cs : List Char) : pieces sep cs ≠ [] := by
  cases cs with
  | nil => simp only [pieces, ne_eq, reduceCtorEq, not_false_eq_true]
  | cons c cs =>
    simp only [pieces]
    split
    · simp only [ne_eq, reduceCtorEq, not_false_eq_true]
    · split <;> simp only [ne_eq, reduceCtorEq, not_false_eq_true]

/-- **Cutting loses nothing.** -/
theorem join_pieces (sep : Char) (cs : List Char) : join [sep] (pieces sep cs) = cs := by
  induction cs with
  | nil => rfl
  | cons c cs ih =>
    simp only [pieces]
    split
    · next h =>
      subst h
      cases hp : pieces c cs with
      | nil => exact absurd hp (pieces_ne_nil c cs)
      | cons p ps => rw [← ih, hp]; rfl
    · cases hp : pieces sep cs with
      | nil => exact absurd hp (pieces_ne_nil sep cs)
      | cons p ps =>
        rw [← ih, hp]
        cases ps <;> rfl

end RecordQuery
