import Mathlib.Data.List.Forall2
import RecordQuery.Proofs.Results
import RecordQuery.Proofs.Text.Paths
import RecordQuery.Proofs.Text.Words
import RecordQuery.Query.Sorting
/-!
# The texts of orders

An order is read from clauses between commas, each of one word, its tag, or of two, the
second of which is a direction in any letter case (`Criterion.WrittenAs`). A blank text is
the empty order, and all other texts are refused. The text of an order has such clauses
for its criteria as long as their tags are words without commas, which all tags are that
have been read. So an order is read back from its text (`parseSorting_settled`).
-/

namespace RecordQuery

/-! ## Clauses -/

/-- The clauses that a criterion is written as. -/
inductive Criterion.WrittenAs : Criterion → List Char → Prop
  | plain {tag : String} {cs : List Char} (h : FallsInto cs [tag.toList]) :
      WrittenAs ⟨tag, .ascending⟩ cs
  | ordered {tag word : String} {order : SortOrder} {cs : List Char}
      (h : FallsInto cs [tag.toList, word.toList])
      (hword : sameUpToCase word order.keyword = true) : WrittenAs ⟨tag, order⟩ cs

/-- The criteria of a text, one for each clause between its commas. -/
def ClausesOf (cs : List Char) (criteria : List Criterion) : Prop :=
  ∃ clauses, clauses ≠ [] ∧ cs = join [','] clauses ∧ (∀ clause ∈ clauses, ',' ∉ clause) ∧
    List.Forall₂ Criterion.WrittenAs criteria clauses

/-- Only the keyword of a direction stands for it. -/
theorem SortOrder.ofKeyword?_eq_some {word : String} {order : SortOrder} :
    SortOrder.ofKeyword? word = some order ↔ sameUpToCase word order.keyword = true := by
  have hdiffer : ¬ (sameUpToCase word "asc" = true ∧ sameUpToCase word "desc" = true) := by
    rintro ⟨hasc, hdesc⟩
    rw [sameUpToCase_iff] at hasc hdesc
    exact absurd (hasc.symm.trans hdesc) (by decide)
  rw [ofKeyword?]
  cases order with
  | ascending =>
    rw [keyword]
    split_ifs with hasc hdesc
    · exact iff_of_true rfl hasc
    · exact iff_of_false (by decide) hasc
    · exact iff_of_false (by decide) hasc
  | descending =>
    rw [keyword]
    split_ifs with hasc hdesc
    · exact iff_of_false (by decide) fun h => hdiffer ⟨hasc, h⟩
    · exact iff_of_true rfl hdesc
    · exact iff_of_false (by decide) hdesc

namespace Criterion

variable {c : Criterion} {tag word : String} {order : SortOrder} {ws : List String}
  {cs : List Char}

theorem ofWords_pair (hword : sameUpToCase word order.keyword = true) :
    ofWords [tag, word] = .ok ⟨tag, order⟩ := by
  simp only [ofWords, SortOrder.ofKeyword?_eq_some.2 hword]

/-- The words of a clause are a criterion if there is one of them, or two and the second
one is a direction. -/
theorem of_ofWords (h : ofWords ws = .ok c) : (ws = [c.tag] ∧ c.order = .ascending) ∨
    ∃ word, ws = [c.tag, word] ∧ sameUpToCase word c.order.keyword = true := by
  revert h
  fun_cases ofWords ws with
  | case1 | case3 | case5 =>
    intro h
    cases h
  | case2 tag =>
    intro h
    cases h
    exact .inl ⟨rfl, rfl⟩
  | case4 tag word order hword =>
    intro h
    cases h
    exact .inr ⟨word, rfl, SortOrder.ofKeyword?_eq_some.1 hword⟩

/-- **A clause is read as a criterion if it is one of its clauses.** -/
theorem ofWords_eq_ok_iff : ofWords ((words cs).map String.ofList) = .ok c ↔ c.WrittenAs cs := by
  constructor
  · intro h
    have htoList (s : String) (l : List Char) : String.ofList l = s ↔ l = s.toList := by
      rw [← String.toList_inj, String.toList_ofList]
    obtain ⟨tag, order⟩ := c
    rcases of_ofWords h with ⟨hws, rfl⟩ | ⟨word, hws, hword⟩
    · refine .plain (words_eq_iff.1 ?_)
      obtain ⟨l, hl, htag⟩ := List.map_eq_singleton_iff.1 hws
      rw [hl, (htoList _ _).1 htag]
    · refine .ordered (words_eq_iff.1 ?_) hword
      obtain ⟨l, ls, hl, htag, hls⟩ := List.map_eq_cons_iff.1 hws
      obtain ⟨l', rfl, hl'⟩ := List.map_eq_singleton_iff.1 hls
      rw [hl, (htoList _ _).1 htag, (htoList _ _).1 hl']
  · intro h
    cases h with
    | plain h =>
      rw [h.words_eq, List.map_singleton, String.ofList_toList]
      rfl
    | ordered h hword =>
      rw [h.words_eq, List.map_cons, List.map_singleton, String.ofList_toList,
        String.ofList_toList]
      exact ofWords_pair hword

/-- The tag of a clause is a word in it. -/
theorem WrittenAs.isWord_tag (h : c.WrittenAs cs) : IsWord c.tag.toList ∧ c.tag.toList ⊆ cs := by
  cases h with
  | plain h | ordered h =>
    exact ⟨h.2 _ List.mem_cons_self, h.1.subset _ List.mem_cons_self⟩

end Criterion

/-! ## Whole texts -/

/-- Several steps succeed if each of them does. -/
theorem mapM_eq_ok {α β ε : Type} {f : α → Except ε β} {as : List α} {bs : List β} :
    as.mapM f = .ok bs ↔ List.Forall₂ (fun b a => f a = .ok b) bs as := by
  induction as generalizing bs with
  | nil =>
    rw [List.mapM_nil, List.forall₂_nil_right_iff]
    exact ⟨fun h => (Except.ok.inj h).symm, fun h => congrArg Except.ok h.symm⟩
  | cons a as ih =>
    rw [List.mapM_cons, List.forall₂_cons_right_iff, bind_eq_ok_iff]
    constructor
    · rintro ⟨b, hb, h⟩
      obtain ⟨bs', hbs', h⟩ := bind_eq_ok h
      cases h
      exact ⟨b, bs', hb, ih.1 hbs', rfl⟩
    · rintro ⟨b, bs', hb, hbs', rfl⟩
      exact ⟨b, hb, bind_eq_ok_iff.2 ⟨bs', ih.2 hbs', rfl⟩⟩

variable {cs : List Char} {criteria : List Criterion} {text : String} {s : Sorting}

/-- The clauses of a text stand between its commas. -/
theorem clausesOf_iff :
    ClausesOf cs criteria ↔ List.Forall₂ Criterion.WrittenAs criteria (pieces ',' cs) := by
  constructor
  · rintro ⟨clauses, hne, rfl, hcommas, hall⟩
    rwa [pieces_join hne hcommas]
  · intro hall
    exact ⟨_, pieces_ne_nil ',' cs, (join_pieces ',' cs).symm,
      fun clause hclause => not_mem_of_mem_pieces hclause, hall⟩

/-- A blank text has no clauses. -/
theorem not_clausesOf_of_blank (h : ∀ c ∈ cs, isBlank c = true) : ¬ ClausesOf cs criteria := by
  have hcomma : ',' ∉ cs := fun hc => absurd (h ',' hc) (by decide)
  rw [clausesOf_iff, pieces_of_not_mem hcomma, List.forall₂_cons_right_iff]
  rintro ⟨c, -, hc, -⟩
  obtain ⟨⟨hne, hword⟩, hsubset⟩ := hc.isWord_tag
  obtain ⟨d, ds, hd⟩ := List.exists_cons_of_ne_nil hne
  rw [hd] at hword hsubset
  have hblank := h d (hsubset List.mem_cons_self)
  rw [hword d List.mem_cons_self] at hblank
  exact Bool.false_ne_true hblank

/-- **What is read as an order** is blank, or has clauses for its criteria. -/
theorem parseSorting_eq_ok_iff : parseSorting text = .ok s ↔
    (allBlank text = true ∧ s.criteria = []) ∨ ClausesOf text.toList s.criteria := by
  obtain ⟨criteria⟩ := s
  rw [parseSorting]
  split
  · next hblank =>
    rw [or_iff_left (not_clausesOf_of_blank (List.all_eq_true.1 hblank)), and_iff_right hblank]
    constructor
    · intro h
      cases h
      rfl
    · rintro rfl
      rfl
  · next hblank =>
    rw [or_iff_right fun h => hblank h.1, clausesOf_iff, bind_eq_ok_iff]
    simp only [mapM_eq_ok, Criterion.ofWords_eq_ok_iff]
    constructor
    · rintro ⟨criteria', h, heq⟩
      cases heq
      exact h
    · exact fun h => ⟨criteria, h, rfl⟩

/-! ## Texts of orders -/

/-- Whether all tags are words without commas. -/
def Sorting.WordTags (s : Sorting) : Prop :=
  ∀ c ∈ s.criteria, IsWord c.tag.toList ∧ ',' ∉ c.tag.toList

/-- All tags that are read are. -/
theorem ClausesOf.wordTags (h : ClausesOf cs s.criteria) : s.WordTags := by
  obtain ⟨clauses, -, -, hcommas, hall⟩ := h
  obtain ⟨criteria⟩ := s
  change ∀ c ∈ criteria, _
  change List.Forall₂ _ criteria clauses at hall
  induction hall with
  | nil => exact List.forall_mem_nil _
  | cons hc _ ih =>
    obtain ⟨hcomma, hcommas⟩ := List.forall_mem_cons.1 hcommas
    obtain ⟨hword, hsubset⟩ := hc.isWord_tag
    exact List.forall_mem_cons.2 ⟨⟨hword, fun h => hcomma (hsubset h)⟩, ih hcommas⟩

theorem SortOrder.isWord_keyword (o : SortOrder) :
    IsWord o.keyword.toList ∧ ',' ∉ o.keyword.toList := by
  cases o <;> exact ⟨isWord_of_all (by decide) rfl, by decide⟩

/-- The text of a criterion is one of its clauses, with blanks in front of it or without. -/
theorem Criterion.writtenAs_text {c : Criterion} (h : IsWord c.tag.toList) {gap : List Char}
    (hgap : ∀ d ∈ gap, isBlank d = true) : c.WrittenAs (gap ++ c.text.toList) := by
  have htext : c.text.toList = c.tag.toList ++ ' ' :: c.order.keyword.toList := by
    simp [Criterion.text]
  have hspaced : Spaced [c.tag.toList, c.order.keyword.toList] c.text.toList := by
    rw [htext]
    exact (Spaced.single _).cons _ (by decide)
  exact .ordered ⟨hspaced.blanks hgap, List.forall_mem_cons.2
    ⟨h, List.forall_mem_singleton.2 c.order.isWord_keyword.1⟩⟩ (sameUpToCase_iff.2 rfl)

theorem Criterion.comma_not_mem_text {c : Criterion} (h : ',' ∉ c.tag.toList) :
    ',' ∉ c.text.toList := by
  have hkeyword := c.order.isWord_keyword.2
  simp [Criterion.text, h, hkeyword]

/-- A longer separator is the separator and what stands in front of all pieces but the
first. -/
theorem join_append (sep gap p : List Char) (ps : List (List Char)) :
    join (sep ++ gap) (p :: ps) = join sep (p :: ps.map (gap ++ ·)) := by
  have hfirst (q : List Char) (qs : List (List Char)) :
      join sep ((gap ++ q) :: qs) = gap ++ join sep (q :: qs) := by
    cases qs with
    | nil => rfl
    | cons _ _ => simp only [join, List.append_assoc]
  induction ps generalizing p with
  | nil => rfl
  | cons q ps ih =>
    calc join (sep ++ gap) (p :: q :: ps)
        = p ++ (sep ++ gap) ++ join (sep ++ gap) (q :: ps) := rfl
      _ = p ++ sep ++ join sep ((gap ++ q) :: ps.map (gap ++ ·)) := by
        rw [ih, hfirst, List.append_assoc, List.append_assoc, List.append_assoc]
      _ = join sep (p :: (q :: ps).map (gap ++ ·)) := rfl

/-- **An order is read back from its text.** -/
theorem parseSorting_text (h : s.WordTags) : parseSorting s.text = .ok s := by
  rw [parseSorting_eq_ok_iff]
  obtain ⟨criteria⟩ := s
  cases criteria with
  | nil => exact .inl ⟨rfl, rfl⟩
  | cons c rest =>
    obtain ⟨⟨hword, hcomma⟩, hrest⟩ := List.forall_mem_cons.1 h
    have hseparator : ", ".toList = [','] ++ [' '] := rfl
    have hblank : ∀ d ∈ [' '], isBlank d = true := List.forall_mem_singleton.2 rfl
    refine .inr ⟨c.text.toList :: rest.map fun c => [' '] ++ c.text.toList, List.cons_ne_nil _ _,
      ?_, List.forall_mem_cons.2 ⟨Criterion.comma_not_mem_text hcomma, ?_⟩, .cons ?_ ?_⟩
    · rw [Sorting.text, joined, String.toList_ofList, List.map_map, List.map_cons, hseparator,
        join_append, List.map_map]
      rfl
    · intro clause hclause
      obtain ⟨d, hd, rfl⟩ := List.mem_map.1 hclause
      exact List.not_mem_cons_of_ne_of_not_mem (by decide)
        (Criterion.comma_not_mem_text (hrest d hd).2)
    · exact Criterion.writtenAs_text hword (List.forall_mem_nil _)
    · rw [List.forall₂_map_right_iff, List.forall₂_same]
      exact fun d hd => Criterion.writtenAs_text (hrest d hd).1 hblank

/-- **Orders are read from their clauses, and from their texts.** A text is read exactly if
it is blank or has a clause for each criterion, and an order whose tags are words without
commas is read back from its text. All tags that are read are such words. -/
theorem parseSorting_settled (text : String) (s : Sorting) :
    (parseSorting text = .ok s ↔
      (allBlank text = true ∧ s.criteria = []) ∨ ClausesOf text.toList s.criteria) ∧
    (s.WordTags → parseSorting s.text = .ok s) ∧
    (parseSorting text = .ok s → s.WordTags) := by
  refine ⟨parseSorting_eq_ok_iff, parseSorting_text, fun h => ?_⟩
  rcases parseSorting_eq_ok_iff.1 h with ⟨-, hnil⟩ | hclauses
  · rw [Sorting.WordTags, hnil]
    exact List.forall_mem_nil _
  · exact hclauses.wordTags

/-- Two tags that are directions, too. -/
def directionTags : Sorting := ⟨[⟨"desc", .ascending⟩, ⟨"asc", .descending⟩]⟩

/-- The two tags are read from clauses with other blanks and letters, and back from
their text. -/
theorem directionTags_read :
    ClausesOf "desc\u2003,asc DESC".toList directionTags.criteria ∧ directionTags.WordTags ∧
      parseSorting "desc\u2003,asc DESC" = .ok directionTags ∧
      parseSorting directionTags.text = .ok directionTags := by
  obtain ⟨hread, hback, htags⟩ := parseSorting_settled "desc\u2003,asc DESC" directionTags
  have hparse : parseSorting "desc\u2003,asc DESC" = .ok directionTags := rfl
  have hclauses := (hread.1 hparse).resolve_left fun h => absurd h.1 (by decide)
  exact ⟨hclauses, htags hparse, hparse, hback (htags hparse)⟩

end RecordQuery
