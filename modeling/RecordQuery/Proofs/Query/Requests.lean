import Mathlib.Data.List.DropRight
import RecordQuery.Proofs.Filter.Lexing
import RecordQuery.Proofs.Number.Numeral
import RecordQuery.Proofs.Results
import RecordQuery.Query.Paging
/-!
# The texts of requests

A page is asked for by three texts, in which blanks at the ends do not count
(`TrimmedTo`). The limit and the offset are nothing, or digits with an optional plus
(`CountText`) for a number that fits into 32 bits; of two that are neither the limit is
reported. The token is taken as it is, but that of the last page is dropped. A word is
read back from its own text, so a page is asked for by the offset that came with the one
before it (`parsePagination_settled`).
-/

namespace RecordQuery

/-! ## Trimming -/

/-- What is left of a text without the blanks at its ends. -/
structure TrimmedTo (cs part : List Char) : Prop where
  around : ∃ before after, cs = before ++ (part ++ after) ∧
    (∀ c ∈ before, isBlank c = true) ∧ ∀ c ∈ after, isBlank c = true
  first : ∀ c ∈ part.head?, isBlank c = false
  last : ∀ c ∈ part.getLast?, isBlank c = false

section Trimming

variable {cs part : List Char}

theorem dropWhile_isBlank_append {before rest : List Char} (h : ∀ c ∈ before, isBlank c = true)
    (hrest : ∀ c ∈ rest.head?, isBlank c = false) :
    (before ++ rest).dropWhile isBlank = rest := by
  rw [dropWhile_before hrest, List.dropWhile_eq_nil_iff.2 h, List.nil_append]

/-- **Trimming a text leaves what is between its blanks.** -/
theorem TrimmedTo.trim_eq (h : TrimmedTo cs part) : trim cs = part := by
  obtain ⟨⟨before, after, rfl, hbefore, hafter⟩, hfirst, hlast⟩ := h
  rw [trim]
  cases part with
  | nil =>
    have hall : ∀ c ∈ before ++ ([] ++ after), isBlank c = true :=
      List.forall_mem_append.2 ⟨hbefore, hafter⟩
    rw [List.dropWhile_eq_nil_iff.2 hall]
    rfl
  | cons c rest =>
    -- the blanks in front go first, and then those behind, which the reversed text starts with
    have hfront : ∀ d ∈ (c :: rest ++ after).head?, isBlank d = false := hfirst
    have hback : ∀ d ∈ (c :: rest).reverse.head?, isBlank d = false := by
      rwa [List.head?_reverse]
    have hreverse : ∀ d ∈ after.reverse, isBlank d = true := by
      simpa only [List.mem_reverse] using hafter
    rw [dropWhile_isBlank_append hbefore hfront, List.reverse_append,
      dropWhile_isBlank_append hreverse hback, List.reverse_reverse]

/-- Every text can be trimmed. -/
theorem trimmedTo_trim (cs : List Char) : TrimmedTo cs (trim cs) := by
  refine ⟨⟨cs.takeWhile isBlank, (cs.dropWhile isBlank).rtakeWhile isBlank, ?_, ?_, ?_⟩, ?_, ?_⟩
  · have hback : trim cs ++ (cs.dropWhile isBlank).rtakeWhile isBlank = cs.dropWhile isBlank :=
      List.rdropWhile_append_rtakeWhile
    rw [hback, List.takeWhile_append_dropWhile]
  · exact fun c hc => List.mem_takeWhile_imp hc
  · exact fun c hc => List.mem_rtakeWhile_imp hc
  · intro c hc
    have hprefix : trim cs <+: cs.dropWhile isBlank := List.rdropWhile_prefix _ _
    obtain ⟨after, hafter⟩ := hprefix
    have hhead : cs.find? (fun d => !isBlank d) = some c := by
      rw [List.find?_not_eq_head?_dropWhile, ← hafter, List.head?_append, hc, Option.some_or]
    simpa only [Bool.not_eq_true'] using List.find?_some hhead
  · intro c hc
    obtain ⟨hne, rfl⟩ := List.mem_getLast?_eq_getLast hc
    exact Bool.eq_false_iff.2 (List.rdropWhile_last_not isBlank (cs.dropWhile isBlank) hne)

/-- A text without blanks is left as it is. -/
theorem trimmedTo_self (h : ∀ c ∈ cs, isBlank c = false) : TrimmedTo cs cs where
  around := ⟨[], [], (List.append_nil cs).symm, List.forall_mem_nil _, List.forall_mem_nil _⟩
  first c hc := h c (List.mem_of_mem_head? hc)
  last c hc := h c (List.mem_of_mem_getLast? hc)

end Trimming

/-! ## Counts -/

/-- The texts that a natural number is written as, with leading zeros or without. -/
inductive CountText : Nat → List Char → Prop
  | plain {ds : List Char} (hne : ds ≠ []) (hds : Digits ds) : CountText (ofDigits ds) ds
  | signed {ds : List Char} (hne : ds ≠ []) (hds : Digits ds) : CountText (ofDigits ds) ('+' :: ds)

theorem countText_iff {n : Nat} {cs : List Char} : CountText n cs ↔
    countDigits cs ≠ [] ∧ Digits (countDigits cs) ∧ ofDigits (countDigits cs) = n := by
  constructor
  · rintro (⟨hne, hds⟩ | ⟨hne, hds⟩)
    · -- digits start with none that could be taken for the sign
      have hsign : countDigits cs = cs := by
        rw [countDigits]
        intro rest hcs
        rw [hcs] at hds
        exact absurd (hds '+' List.mem_cons_self) (by decide)
      rw [hsign]
      exact ⟨hne, hds, rfl⟩
    · exact ⟨hne, hds, rfl⟩
  · rintro ⟨hne, hds, rfl⟩
    revert hne hds
    fun_cases countDigits cs with
    | case1 rest => exact .signed
    | case2 => exact .plain

/-- **A text is read as a number below the bound if it is one of its texts.** -/
theorem readCount_eq_some_iff {bound : Nat} {cs : List Char} {n : { n : Nat // n < bound }} :
    readCount bound cs = some n ↔ CountText n.1 cs := by
  obtain ⟨n, hn⟩ := n
  rw [countText_iff, readCount]
  constructor
  · intro h
    split at h
    · next hdigits =>
      split at h
      · cases h
        exact ⟨hdigits.1, List.all_eq_true.1 hdigits.2, rfl⟩
      · cases h
    · cases h
  · rintro ⟨hne, hds, rfl⟩
    have hall : (countDigits cs).all Char.isDigit = true := List.all_eq_true.2 hds
    rw [if_pos ⟨hne, hall⟩, dif_pos hn]

theorem readWord32_eq_some_iff {cs : List Char} {n : UInt32} :
    readWord32 cs = some n ↔ CountText n.toNat cs := by
  rw [readWord32, Option.map_eq_some_iff]
  constructor
  · rintro ⟨m, hm, rfl⟩
    exact readCount_eq_some_iff.1 hm
  · intro h
    exact ⟨⟨n.toNat, n.toNat_lt_size⟩, readCount_eq_some_iff.2 h, UInt32.ofNatLT_toNat n⟩

theorem toList_wordText (n : UInt32) : (wordText n).toList = toDigits n.toNat := by
  rw [wordText, toList_integerText, if_neg (Int.not_lt.2 (Int.natCast_nonneg _))]
  rfl

/-- A word's own text is one of the texts that it is read from. -/
theorem countText_wordText (n : UInt32) : CountText n.toNat (wordText n).toList := by
  have hplain : CountText (ofDigits (toDigits n.toNat)) (toDigits n.toNat) :=
    .plain Nat.toDigits_ne_nil (digits_toDigits _)
  rwa [ofDigits_toDigits, ← toList_wordText] at hplain

/-! ## Requests -/

/-- The texts that ask for a number: blank ones for none, and those of the number itself
with any blanks around it. -/
def AsksFor (n : UInt32) (text : String) : Prop :=
  ∃ part, TrimmedTo text.toList part ∧ (part = [] ∧ n = 0 ∨ CountText n.toNat part)

/-- The texts that ask for a token: that of the last page asks for none, and any other one
for what is between its blanks. -/
def AsksForToken (token text : String) : Prop :=
  ∃ part : String, TrimmedTo text.toList part.toList ∧
    token = if part = lastToken then "" else part

variable {name text : String} {n : UInt32}

theorem trimmedTo_trimmed (text : String) : TrimmedTo text.toList (trimmed text).toList := by
  rw [trimmed, String.toList_ofList]
  exact trimmedTo_trim text.toList

theorem asksFor_iff : AsksFor n text ↔
    trim text.toList = [] ∧ n = 0 ∨ CountText n.toNat (trim text.toList) := by
  constructor
  · rintro ⟨part, hpart, h⟩
    rwa [hpart.trim_eq]
  · exact fun h => ⟨_, trimmedTo_trim _, h⟩

theorem asksForToken_iff {token : String} : AsksForToken token text ↔
    token = if trimmed text = lastToken then "" else trimmed text := by
  constructor
  · rintro ⟨part, hpart, rfl⟩
    rw [trimmed, hpart.trim_eq, String.ofList_toList]
  · exact fun h => ⟨_, trimmedTo_trimmed text, h⟩

theorem not_countText_nil {n : Nat} : ¬ CountText n [] := by
  rw [countText_iff]
  exact fun h => h.1 rfl

/-- **A limit or an offset is read as what its text asks for.** -/
theorem parseCount_eq_ok_iff : parseCount name text = .ok n ↔ AsksFor n text := by
  rw [asksFor_iff, parseCount]
  by_cases hnil : trim text.toList = []
  · rw [if_pos hnil, hnil, or_iff_left not_countText_nil, and_iff_right rfl]
    exact ⟨fun h => (Except.ok.inj h).symm, fun h => congrArg Except.ok h.symm⟩
  · rw [if_neg hnil, or_iff_right fun h => hnil h.1, ← readWord32_eq_some_iff]
    cases readWord32 (trim text.toList) with
    | none => exact iff_of_false nofun nofun
    | some m =>
      exact ⟨fun h => congrArg some (Except.ok.inj h),
        fun h => congrArg Except.ok (Option.some.inj h)⟩

/-- A text that asks for no number is refused, and the error has the text. -/
theorem parseCount_eq_error_iff {e : PagingError} : parseCount name text = .error e ↔
    (¬ ∃ n, AsksFor n text) ∧ e = .notACount name (trimmed text) := by
  have hwhich : ∀ e', parseCount name text = .error e' → e' = .notACount name (trimmed text) := by
    intro e' h
    rw [parseCount] at h
    split at h
    · cases h
    · split at h
      · cases h
      · cases h
        rfl
  constructor
  · intro h
    refine ⟨?_, hwhich e h⟩
    rintro ⟨n, hn⟩
    exact ne_error_of_eq_ok (parseCount_eq_ok_iff.2 hn) h
  · rintro ⟨hnone, rfl⟩
    cases hread : parseCount name text with
    | ok n => exact absurd ⟨n, parseCount_eq_ok_iff.1 hread⟩ hnone
    | error e' => rw [hwhich e' hread]

/-- The text of a word asks for the word. -/
theorem asksFor_wordText (n : UInt32) : AsksFor n (wordText n) := by
  refine ⟨_, trimmedTo_self fun c hc => ?_, .inr (countText_wordText n)⟩
  rw [toList_wordText] at hc
  exact isBlank_of_continuesName (continuesName_of_isDigit (digits_toDigits _ c hc))

theorem parsePagination_eq_ok_iff {limit offset token : String} {p : Pagination} :
    parsePagination limit offset token = .ok p ↔
      AsksFor p.limit limit ∧ AsksFor p.offset offset ∧ AsksForToken p.pageToken token := by
  simp only [parsePagination, bind_eq_ok_iff, parseCount_eq_ok_iff, asksForToken_iff]
  generalize (if trimmed token = lastToken then "" else trimmed token) = t
  constructor
  · rintro ⟨l, hl, o, ho, h⟩
    cases h
    exact ⟨hl, ho, rfl⟩
  · rintro ⟨hl, ho, rfl⟩
    exact ⟨p.limit, hl, p.offset, ho, rfl⟩

theorem parsePagination_eq_error_iff {limit offset token : String} {e : PagingError} :
    parsePagination limit offset token = .error e ↔
      (¬ ∃ n, AsksFor n limit) ∧ e = .notACount "limit" (trimmed limit) ∨
      (∃ n, AsksFor n limit) ∧ (¬ ∃ n, AsksFor n offset) ∧
        e = .notACount "offset" (trimmed offset) := by
  rw [parsePagination, bind_eq_error, parseCount_eq_error_iff]
  refine or_congr_right ?_
  simp only [parseCount_eq_ok_iff, bind_return_eq_error, parseCount_eq_error_iff, exists_and_right]

/-- **Requests are read from their texts.** A request is read exactly if the limit and the
offset ask for numbers, and is then what the three texts ask for. Otherwise the limit is
reported if it asks for none, and the offset if only that does. So a request for any number
of records from the offset of a page on is read back from the texts of the two. -/
theorem parsePagination_settled (limit offset token : String) :
    (∀ p, parsePagination limit offset token = .ok p ↔
      AsksFor p.limit limit ∧ AsksFor p.offset offset ∧ AsksForToken p.pageToken token) ∧
    (∀ e, parsePagination limit offset token = .error e ↔
      (¬ ∃ n, AsksFor n limit) ∧ e = .notACount "limit" (trimmed limit) ∨
      (∃ n, AsksFor n limit) ∧ (¬ ∃ n, AsksFor n offset) ∧
        e = .notACount "offset" (trimmed offset)) ∧
    ∀ (n : UInt32) (i : PageInfo), ∃ t, AsksForToken t token ∧
      parsePagination (wordText n) (wordText i.offset) token = .ok ⟨n, i.offset, t⟩ := by
  refine ⟨fun p => parsePagination_eq_ok_iff, fun e => parsePagination_eq_error_iff,
    fun n i => ?_⟩
  obtain ⟨t, ht⟩ : ∃ t, AsksForToken t token := ⟨_, asksForToken_iff.2 rfl⟩
  exact ⟨t, ht, parsePagination_eq_ok_iff.2
    ⟨asksFor_wordText n, asksFor_wordText i.offset, ht⟩⟩

/-- The greatest word is read with a plus and zeros in front of it, and no greater number. -/
example : parsePagination " 20\u2003" "+0004294967295" " null " = .ok ⟨20, 4294967295, ""⟩ ∧
    parsePagination "" "4294967296" "" = .error (.notACount "offset" "4294967296") := by
  decide

end RecordQuery
