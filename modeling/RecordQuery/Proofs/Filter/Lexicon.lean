import RecordQuery.Proofs.Filter.Viability
/-!
# How tokens are written

The lexical grammar, without a scanner: `Written w cs` says that the characters `cs` are a
way to write the word `w`. Strings stand between two equal quotes that are not in them,
and all other words are written as their texts. What is read as a token has been written
(`Lexeme.exists_written_of_read`), and nothing longer was that is written at the same
place (`Written.length_le`), so a name, a number or an operator goes on as far as it can.
-/

namespace RecordQuery

/-- The kinds whose words differ in their texts, and the end, which is not written. -/
def TokenKind.varying : List TokenKind := [.field, .string, .number, .finish]

/-- The characters that a word is written with. -/
inductive Written : Word → List Char → Prop
  | field {s : String} (h : FieldName s.toList) : Written (.field, s) s.toList
  | number {s : String} {ds : List Char} {x : Decimal} (h : Numeral ds x)
      (hs : s.toList = ds ∨ s.toList = '-' :: ds) : Written (.number, s) s.toList
  | string {s : String} {q : Char} (hq : q = '\'' ∨ q = '"') (h : q ∉ s.toList) :
      Written (.string, s) (q :: (s.toList ++ [q]))
  | fixed {k : TokenKind} (hk : k ∉ TokenKind.varying) : Written (k, k.sample) k.sample.toList

/-- All words but strings are written as their texts. -/
theorem Written.eq_text {w : Word} {l : List Char} (h : Written w l) (hw : w.1 ≠ .string) :
    l = w.2.toList := by
  cases h with
  | string => exact absurd rfl hw
  | _ => rfl

/-! ## What is read has been written -/

namespace Lexeme

variable {c q : Char} {sign cs ds text l : List Char} {kind : TokenKind} {n : Nat}

/-- A number takes the characters of its text. -/
theorem of_number (h : number sign cs = .token kind text n) :
    n = text.length ∧ ∃ after, sign ++ cs = text ++ after := by
  have hcs : cs = cs.takeWhile Char.isDigit ++ cs.dropWhile Char.isDigit :=
    List.takeWhile_append_dropWhile.symm
  simp only [number] at h
  split at h
  · next rest hrest =>
    have hfraction : rest = rest.takeWhile Char.isDigit ++ rest.dropWhile Char.isDigit :=
      List.takeWhile_append_dropWhile.symm
    split at h
    · cases h
    · cases h
      refine ⟨rfl, rest.dropWhile Char.isDigit, ?_⟩
      rw [List.append_assoc, List.append_assoc, List.cons_append, ← hfraction, ← hrest, ← hcs]
  · cases h
    refine ⟨rfl, cs.dropWhile Char.isDigit, ?_⟩
    rw [List.append_assoc, ← hcs]

/-- A name takes all characters that continue it. -/
theorem takeWhile_of_name (h : name cs = .token kind text n) :
    text = cs.takeWhile continuesName ∧ n = text.length := by
  simp only [name, token.injEq] at h
  obtain ⟨-, rfl, rfl⟩ := h
  exact ⟨rfl, rfl⟩

/-- A name is a keyword or the name of a field. -/
theorem written_of_name (hc : startsName c = true) (h : name (c :: cs) = .token kind text n) :
    Written (kind, String.ofList text) text := by
  have hname : kind = .field → FieldName text := fun hk => fieldName_of_name hc (hk ▸ h)
  simp only [name, token.injEq] at h
  obtain ⟨rfl, rfl, -⟩ := h
  have hkeyword {k : TokenKind} {w : List Char} (hw : w = k.sample.toList)
      (hk : k ∉ TokenKind.varying) : Written (k, String.ofList w) w := by
    rw [hw, String.ofList_toList]
    exact .fixed hk
  split_ifs at hname ⊢ with hnull hand hor hnot
  · exact hkeyword hnull (by decide)
  · exact hkeyword hand (by decide)
  · exact hkeyword hor (by decide)
  · exact hkeyword hnot (by decide)
  · have hfield := @Written.field (String.ofList ((c :: cs).takeWhile continuesName))
    rw [String.toList_ofList] at hfield
    exact hfield (hname rfl)

theorem written_of_number {d : Char} (hd : d.isDigit = true) (hsign : sign = [] ∨ sign = ['-'])
    (h : number sign (d :: cs) = .token kind text n) :
    Written (kind, String.ofList text) text := by
  obtain rfl := kind_of_number h
  obtain ⟨ds, x, rfl, hnumeral⟩ := exists_numeral_of_number hd h
  have hnumber := @Written.number (String.ofList (sign ++ ds)) ds x hnumeral
  rw [String.toList_ofList] at hnumber
  refine hnumber ?_
  rcases hsign with rfl | rfl
  · exact .inl rfl
  · exact .inr rfl

/-- **What is read as a token is written in front of the rest.** -/
theorem exists_written_of_read (h : read c cs = .token kind text n) :
    ∃ l after, c :: cs = l ++ after ∧ l.length = n ∧
      Written (kind, String.ofList text) l := by
  -- brackets and operators are their own texts
  have hmark {k : TokenKind} {sign after : List Char} (hk : k ∉ TokenKind.varying)
      (hsign : sign = k.sample.toList) (hcs : c :: cs = sign ++ after)
      (h : mark k sign = .token kind text n) : ∃ l after, c :: cs = l ++ after ∧ l.length = n ∧
        Written (kind, String.ofList text) l := by
    cases h
    refine ⟨text, after, hcs, rfl, ?_⟩
    rw [hsign, String.ofList_toList]
    exact .fixed hk
  revert h
  fun_cases read c cs with
  | case1 | case2 | case3 | case4 | case6 | case7 | case9 | case10 | case11 | case12 =>
    subst_vars
    exact hmark (by decide) rfl rfl
  | case13 =>
    intro h
    have hnot := not_mem_of_string h
    obtain ⟨rest, rfl, rfl, rfl⟩ := exists_of_string h
    have hstring := @Written.string (String.ofList text) c ‹_›
    rw [String.toList_ofList] at hstring
    refine ⟨c :: (text ++ [c]), rest, ?_, ?_, hstring hnot⟩
    · rw [List.cons_append, List.append_assoc, List.singleton_append]
    · rw [List.length_cons, List.length_append, List.length_singleton]
  | case14 =>
    subst_vars
    intro h
    obtain ⟨rfl, after, hafter⟩ := of_number h
    exact ⟨text, after, hafter, rfl, written_of_number ‹_› (.inr rfl) h⟩
  | case17 =>
    intro h
    obtain ⟨rfl, after, hafter⟩ := of_number h
    exact ⟨text, after, hafter, rfl, written_of_number ‹_› (.inl rfl) h⟩
  | case18 =>
    intro h
    obtain ⟨htext, rfl⟩ := takeWhile_of_name h
    refine ⟨text, (c :: cs).dropWhile continuesName, ?_, rfl, written_of_name ‹_› h⟩
    rw [htext, List.takeWhile_append_dropWhile]
  | _ =>
    intro h
    cases h

/-! ## Nothing longer has been written -/

/-- A run reaches over every beginning that belongs to it. -/
theorem length_le_takeWhile {p : Char → Bool} (hl : l <+: cs) (h : ∀ d ∈ l, p d = true) :
    l.length ≤ (cs.takeWhile p).length := by
  obtain ⟨after, rfl⟩ := hl
  rw [List.takeWhile_append_of_pos h, List.length_append]
  exact Nat.le_add_right _ _

theorem length_le_of_name (hc : startsName c = true) (hl : l <+: c :: cs)
    (hall : ∀ d ∈ l, continuesName d = true) (h : read c cs = .token kind text n) :
    l.length ≤ n := by
  rw [read_of_startsName cs hc] at h
  obtain ⟨rfl, rfl⟩ := takeWhile_of_name h
  exact length_le_takeWhile hl hall

/-- A number goes on as long as a numeral does. -/
theorem length_le_of_number {x : Decimal} (hds : Numeral ds x) (hl : ds <+: cs)
    (h : number sign cs = .token kind text n) : sign.length + ds.length ≤ n := by
  cases hds with
  | whole _ hw =>
    have hrun := length_le_takeWhile hl hw
    simp only [number] at h
    split at h
    · split at h
      · cases h
      · cases h
        rw [List.length_append, List.length_append]
        omega
    · cases h
      rw [List.length_append]
      omega
  | @point w f _ hw hf =>
    obtain ⟨after, rfl⟩ := hl
    have hpoint : ∀ d ∈ ('.' :: (f ++ after)).head?, d.isDigit = false := by
      rintro d ⟨⟩
      decide
    have hrun := length_le_takeWhile (List.prefix_append f after) hf
    -- the digits end at the point, so that is read, too
    simp only [number, List.append_assoc, List.cons_append, hw.takeWhile_append hpoint,
      hw.dropWhile_append hpoint] at h
    split at h
    · cases h
    · cases h
      simp only [List.length_append, List.length_cons]
      omega

end Lexeme

namespace Written

variable {c : Char} {cs l text : List Char} {kind : TokenKind} {w : Word} {n : Nat}

theorem length_le_of_keyword {k : TokenKind} (hk : k ∈ [TokenKind.null, .and, .or, .not])
    (hl : k.sample.toList <+: c :: cs) (h : Lexeme.read c cs = .token kind text n) :
    k.sample.toList.length ≤ n := by
  have hname {d : Char} {ds : List Char} (heq : k.sample.toList = d :: ds)
      (hd : startsName d = true) (hall : (d :: ds).all continuesName = true) :
      k.sample.toList.length ≤ n := by
    rw [heq] at hl ⊢
    obtain rfl : d = c := (List.cons_prefix_cons.1 hl).1
    exact Lexeme.length_le_of_name hd hl (List.all_eq_true.1 hall) h
  simp only [List.mem_cons, List.not_mem_nil, or_false] at hk
  rcases hk with rfl | rfl | rfl | rfl
  · exact hname rfl (by decide) (by decide)
  · exact hname rfl (by decide) (by decide)
  · exact hname rfl (by decide) (by decide)
  · exact hname rfl (by decide) (by decide)

/-- An operator or a bracket is not longer than what is read in its place. -/
theorem length_le_of_mark {k : TokenKind}
    (hk : k.isComparison = true ∨ k = .leftParen ∨ k = .rightParen)
    (hl : k.sample.toList <+: c :: cs) (h : Lexeme.read c cs = .token kind text n) :
    k.sample.toList.length ≤ n := by
  have hpos : 0 < n := by
    have hsize := @Lexeme.size_pos c cs (by rw [h]; rfl)
    rwa [h] at hsize
  -- where two signs stand, both are read
  have htwo {d e : Char} {k' : TokenKind} (hde : [d, e] <+: c :: cs)
      (hread : ∀ after, Lexeme.read d (e :: after) = Lexeme.mark k' [d, e]) : 2 ≤ n := by
    obtain ⟨after, hafter⟩ := hde
    cases hafter
    cases (hread after).symm.trans h
    exact Nat.le_refl 2
  cases k with
  | eq => exact htwo hl fun _ => rfl
  | ne => exact htwo hl fun _ => rfl
  | unlike => exact htwo hl fun _ => rfl
  | le => exact htwo hl fun _ => rfl
  | ge => exact htwo hl fun _ => rfl
  | like => exact hpos
  | lt => exact hpos
  | gt => exact hpos
  | leftParen => exact hpos
  | rightParen => exact hpos
  | _ => exact absurd hk (by decide)

/-- **No word that is written at a place is longer than the token that is read there.** -/
theorem length_le (hw : Written w l) (hl : l <+: c :: cs)
    (h : Lexeme.read c cs = .token kind text n) : l.length ≤ n := by
  cases hw with
  | @field s hs =>
    obtain ⟨d, ds, heq, hd⟩ := hs.exists_cons
    have hall := hs.2.1
    rw [heq] at hl hall ⊢
    obtain rfl : d = c := (List.cons_prefix_cons.1 hl).1
    exact Lexeme.length_le_of_name hd hl hall h
  | @number s ds x hds hs =>
    obtain ⟨d, es, rfl, hd⟩ := hds.exists_cons
    rcases hs with hs | hs
    · rw [hs] at hl ⊢
      obtain rfl : d = c := (List.cons_prefix_cons.1 hl).1
      rw [Lexeme.read_of_isDigit cs hd] at h
      have hlength := Lexeme.length_le_of_number hds hl h
      rwa [List.length_nil, Nat.zero_add] at hlength
    · rw [hs] at hl ⊢
      obtain ⟨rfl, after, rfl⟩ := List.cons_prefix_cons.1 hl
      rw [List.cons_append, Lexeme.read_minus _ hd] at h
      have hlength := Lexeme.length_le_of_number hds (List.prefix_append _ after) h
      rw [List.length_singleton] at hlength
      rw [List.length_cons]
      omega
  | @string s q hq hs =>
    obtain ⟨rfl, after, rfl⟩ := List.cons_prefix_cons.1 hl
    rw [List.append_assoc, List.singleton_append, Lexeme.read_quote _ hq,
      Lexeme.string_append hs] at h
    cases h
    rw [List.length_cons, List.length_append, List.length_singleton]
  | @fixed k hk =>
    by_cases hkeyword : k ∈ [TokenKind.null, .and, .or, .not]
    · exact length_le_of_keyword hkeyword hl h
    · refine length_le_of_mark ?_ hl h
      revert hk hkeyword
      cases k <;> decide

/-! ## Written words are read -/

/-- **What is written is read as the word**, wherever it stands before the end of one. -/
theorem spells (hw : Written w l) : Spells l [w] := by
  cases hw with
  | field hs =>
    have hspells := Spells.fieldName hs
    rwa [String.ofList_toList] at hspells
  | @number s ds x hds hs =>
    rcases hs with hs | hs
    · have hspells := Spells.numeral false hds
      rwa [if_neg Bool.false_ne_true, List.nil_append, ← hs, String.ofList_toList] at hspells
    · have hspells := Spells.numeral true hds
      rwa [if_pos rfl, List.singleton_append, ← hs, String.ofList_toList] at hspells
  | string hq hs =>
    have hspells := Spells.string hq hs
    rwa [String.ofList_toList] at hspells
  | @fixed k hk =>
    cases k with
    | null => exact spells_null
    | and => exact spells_keyword .and
    | or => exact spells_keyword .or
    | not => exact spells_not
    | leftParen => exact fun more p _ => Scanner.reads_leftParen more p
    | rightParen => exact fun more p _ => Scanner.reads_rightParen more p
    | field | string | number | finish => exact absurd hk (by decide)
    | _ => exact Spells.sign (by decide)

end Written

end RecordQuery
