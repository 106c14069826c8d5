import RecordQuery.Text.Blank
/-!
# Words and the blanks around them

A text falls into words if it consists of them and of blanks, with at least one blank
between any two, and no word has a blank in it (`FallsInto`). There is one way to do so,
and that is the one that `words` finds (`words_eq_iff`).
-/

namespace RecordQuery

/-! ## Parts with blanks between them -/

/-- The parts one after another, with at least one blank between any two. -/
inductive Apart : List (List Char) → List Char → Prop
  | nil : Apart [] []
  | single (l : List Char) : Apart [l] l
  | cons {l next gap cs : List Char} {ls : List (List Char)} (hne : gap ≠ [])
      (hgap : ∀ c ∈ gap, isBlank c = true) (h : Apart (next :: ls) cs) :
      Apart (l :: next :: ls) (l ++ (gap ++ cs))

/-- The parts with blanks between them, and any blanks at both ends. -/
def Spaced (ls : List (List Char)) (cs : List Char) : Prop :=
  ∃ before body behind, cs = before ++ (body ++ behind) ∧ Apart ls body ∧
    (∀ c ∈ before, isBlank c = true) ∧ ∀ c ∈ behind, isBlank c = true

variable {ls : List (List Char)} {l gap cs acc : List Char} {c : Char}

/-- Blanks in front change nothing. -/
theorem Spaced.blanks (hgap : ∀ c ∈ gap, isBlank c = true) (h : Spaced ls cs) :
    Spaced ls (gap ++ cs) := by
  obtain ⟨before, body, behind, rfl, hbody, hbefore, hbehind⟩ := h
  exact ⟨gap ++ before, body, behind, (List.append_assoc _ _ _).symm, hbody,
    List.forall_mem_append.2 ⟨hgap, hbefore⟩, hbehind⟩

/-- One more part in front, and a blank between. -/
theorem Spaced.cons (l : List Char) (hc : isBlank c = true) (h : Spaced ls cs) :
    Spaced (l :: ls) (l ++ c :: cs) := by
  obtain ⟨before, body, behind, rfl, hbody, hbefore, hbehind⟩ := h
  have hgap : ∀ d ∈ c :: before, isBlank d = true := List.forall_mem_cons.2 ⟨hc, hbefore⟩
  cases ls with
  | nil =>
    cases hbody
    exact ⟨[], l, c :: (before ++ behind), rfl, .single l, List.forall_mem_nil _,
      List.forall_mem_append.2 ⟨hgap, hbehind⟩⟩
  | cons next ls =>
    refine ⟨[], _, behind, ?_, .cons (List.cons_ne_nil c before) hgap hbody,
      List.forall_mem_nil _, hbehind⟩
    simp only [List.nil_append, List.cons_append, List.append_assoc]

theorem Spaced.single (l : List Char) : Spaced [l] l :=
  ⟨[], l, [], (List.append_nil l).symm, .single l, List.forall_mem_nil _, List.forall_mem_nil _⟩

theorem Spaced.nil : Spaced [] [] :=
  ⟨[], [], [], rfl, .nil, List.forall_mem_nil _, List.forall_mem_nil _⟩

theorem Apart.subset (h : Apart ls cs) : ∀ l ∈ ls, l ⊆ cs := by
  induction h with
  | nil => exact List.forall_mem_nil _
  | single l => exact List.forall_mem_singleton.2 (List.Subset.refl l)
  | cons _ _ _ ih =>
    refine List.forall_mem_cons.2 ⟨List.subset_append_left _ _, fun l hl => ?_⟩
    exact List.Subset.trans (ih l hl)
      (List.Subset.trans (List.subset_append_right _ _) (List.subset_append_right _ _))

/-- The text has all characters of its parts. -/
theorem Spaced.subset (h : Spaced ls cs) : ∀ l ∈ ls, l ⊆ cs := by
  obtain ⟨before, body, behind, rfl, hbody, -, -⟩ := h
  exact fun l hl => List.Subset.trans (hbody.subset l hl)
    (List.Subset.trans (List.subset_append_left body behind) (List.subset_append_right before _))

/-! ## Words -/

/-- A word has characters, and none of them is a blank. -/
def IsWord (w : List Char) : Prop := w ≠ [] ∧ ∀ c ∈ w, isBlank c = false

/-- A text consists of these words and of blanks. -/
def FallsInto (cs : List Char) (ws : List (List Char)) : Prop := Spaced ws cs ∧ ∀ w ∈ ws, IsWord w

theorem isWord_of_all {w : List Char} (hne : w ≠ []) (h : w.all (!isBlank ·) = true) :
    IsWord w := by
  refine ⟨hne, fun c hc => ?_⟩
  simpa using List.all_eq_true.1 h c hc

/-- What is not blank belongs to the word that has begun. -/
theorem wordsFrom_append (acc cs : List Char) (hl : ∀ c ∈ l, isBlank c = false) :
    wordsFrom acc (l ++ cs) = wordsFrom (l.reverse ++ acc) cs := by
  induction l generalizing acc with
  | nil => rfl
  | cons c l ih =>
    obtain ⟨hc, hl⟩ := List.forall_mem_cons.1 hl
    rw [List.cons_append, wordsFrom, hc, if_neg Bool.false_ne_true, ih _ hl, List.reverse_cons,
      List.append_assoc, List.singleton_append]

theorem wordsFrom_blanks (cs : List Char) (hgap : ∀ c ∈ gap, isBlank c = true) :
    wordsFrom [] (gap ++ cs) = wordsFrom [] cs := by
  induction gap with
  | nil => rfl
  | cons c gap ih =>
    obtain ⟨hc, hgap⟩ := List.forall_mem_cons.1 hgap
    rw [List.cons_append, wordsFrom, hc, if_pos rfl, ← ih hgap]
    rfl

/-- Blanks end a word. -/
theorem wordsFrom_word (cs : List Char) (hl : IsWord l) (hne : gap ≠ [])
    (hgap : ∀ c ∈ gap, isBlank c = true) :
    wordsFrom [] (l ++ (gap ++ cs)) = l :: wordsFrom [] cs := by
  obtain ⟨c, gap, rfl⟩ := List.exists_cons_of_ne_nil hne
  obtain ⟨hc, hgap⟩ := List.forall_mem_cons.1 hgap
  have hacc : ¬ l.reverse.isEmpty = true := by
    rw [List.isEmpty_iff, List.reverse_eq_nil_iff]
    exact hl.1
  rw [wordsFrom_append _ _ hl.2, List.append_nil, List.cons_append, wordsFrom, if_pos hc,
    if_neg hacc, wordsFrom_blanks _ hgap, List.reverse_reverse]

/-- The end of the text ends a word. -/
theorem wordsFrom_last (hl : IsWord l) : wordsFrom [] l = [l] := by
  have hacc : ¬ l.reverse.isEmpty = true := by
    rw [List.isEmpty_iff, List.reverse_eq_nil_iff]
    exact hl.1
  have hread := wordsFrom_append [] [] hl.2
  rw [List.append_nil, List.append_nil] at hread
  rw [hread, wordsFrom, if_neg hacc, List.reverse_reverse]

/-- The words that a text falls into are found in it. -/
theorem FallsInto.words_eq (h : FallsInto cs ls) : words cs = ls := by
  obtain ⟨⟨before, body, behind, rfl, hbody, hbefore, hbehind⟩, hwords⟩ := h
  rw [words, wordsFrom_blanks _ hbefore]
  induction hbody with
  | nil =>
    have hnone := wordsFrom_blanks [] hbehind
    rw [List.append_nil] at hnone
    exact hnone
  | single l =>
    have hl := List.forall_mem_singleton.1 hwords
    by_cases hnil : behind = []
    · rw [hnil, List.append_nil, wordsFrom_last hl]
    · have hlast := wordsFrom_word [] hl hnil hbehind
      rwa [List.append_nil] at hlast
  | cons hne hgap _ ih =>
    obtain ⟨hl, hwords⟩ := List.forall_mem_cons.1 hwords
    rw [List.append_assoc, List.append_assoc, wordsFrom_word _ hl hne hgap, ih hwords]

/-- A text falls into the words that are found in it. -/
theorem fallsInto_wordsFrom (cs : List Char) (hacc : ∀ c ∈ acc, isBlank c = false) :
    FallsInto (acc.reverse ++ cs) (wordsFrom acc cs) := by
  have hword (hne : ¬ acc.isEmpty = true) : IsWord acc.reverse := by
    refine ⟨?_, fun c hc => hacc c (List.mem_reverse.1 hc)⟩
    rwa [ne_eq, List.reverse_eq_nil_iff, ← List.isEmpty_iff]
  induction cs generalizing acc with
  | nil =>
    rw [wordsFrom, List.append_nil]
    split
    · next hnil =>
      rw [List.isEmpty_iff.1 hnil]
      exact ⟨.nil, List.forall_mem_nil _⟩
    · next hne => exact ⟨.single _, List.forall_mem_singleton.2 (hword hne)⟩
  | cons c cs ih =>
    rw [wordsFrom]
    split
    · next hc =>
      obtain ⟨hspaced, hwords⟩ := @ih [] (List.forall_mem_nil _) fun h => absurd rfl h
      split
      · next hnil =>
        have hblank : ∀ d ∈ [c], isBlank d = true := List.forall_mem_singleton.2 hc
        have hbehind : Spaced (wordsFrom [] cs) (c :: cs) := hspaced.blanks hblank
        rw [List.isEmpty_iff.1 hnil]
        exact ⟨hbehind, hwords⟩
      · next hne => exact ⟨hspaced.cons _ hc, List.forall_mem_cons.2 ⟨hword hne, hwords⟩⟩
    · next hc =>
      have hacc' : ∀ d ∈ c :: acc, isBlank d = false :=
        List.forall_mem_cons.2 ⟨Bool.eq_false_iff.2 hc, hacc⟩
      have hrest := @ih (c :: acc) hacc' fun _ =>
        ⟨by simp, fun d hd => hacc' d (List.mem_reverse.1 hd)⟩
      rwa [List.reverse_cons, List.append_assoc, List.singleton_append] at hrest

/-- **The words of a text are the ones that it falls into.** -/
theorem words_eq_iff : words cs = ls ↔ FallsInto cs ls :=
  ⟨fun h => h ▸ fallsInto_wordsFrom cs (List.forall_mem_nil _), FallsInto.words_eq⟩

end RecordQuery
