/-!
# Letter case — comparing texts up to the case of the letters A to Z

Only the twenty-six letters without marks have a case here. All other
characters stand for themselves.
-/

namespace RecordQuery

/-- A text with its letters A to Z in lower case. -/
def lowered (s : String) : String := String.ofList (s.toList.map Char.toLower)

/-- Whether two texts differ at most in the case of letters A to Z. -/
def sameUpToCase (a b : String) : Bool := a.toList.map Char.toLower == b.toList.map Char.toLower

/-- Texts are the same up to case when their lower-case forms are equal. -/
theorem sameUpToCase_iff {a b : String} : sameUpToCase a b = true ↔ lowered a = lowered b := by
  simp only [sameUpToCase, lowered, beq_iff_eq, ← String.toList_inj, String.toList_ofList]

end RecordQuery
