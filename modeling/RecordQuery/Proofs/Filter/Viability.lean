import RecordQuery.Proofs.Filter.Composing
import RecordQuery.Proofs.Filter.Expectation
/-!
# Beginnings of filters

Words are viable if some text that is read begins with them (`Viable`), and a kind
can follow them if they are viable with some word of that kind behind them
(`CanFollow`). Whether a token can be read does not depend on what stands around it
(`exists_spells_of_read`), so the tokens of any text can be written in another one,
and those that lead anywhere are viable (`viable_of_leads`). What can follow them is
what is due there, and the end of the text where there are none (`canFollow_iff`): a
text of blanks is read, too.
-/

namespace RecordQuery

/-! ## Tokens by themselves -/

namespace Lexeme

variable {c d : Char} {sign cs text : List Char} {kind : TokenKind} {n : Nat}

/-- A number is a numeral behind its sign. -/
theorem exists_numeral_of_number (hd : d.isDigit = true)
    (h : number sign (d :: cs) = .token kind text n) :
    ∃ ds x, text = sign ++ ds ∧ Numeral ds x := by
  have hne : (d :: cs).takeWhile Char.isDigit ≠ [] := by
    rw [List.takeWhile_cons_of_pos hd]
    exact List.cons_ne_nil _ _
  have hrun (ds : List Char) : Digits (ds.takeWhile Char.isDigit) :=
    fun c hc => List.mem_takeWhile_imp hc
  simp only [number] at h
  split at h
  · next rest _ =>
    split at h
    · cases h
    · cases h
      exact ⟨_, _, List.append_assoc _ _ _, .point hne (hrun _) (hrun rest)⟩
  · cases h
    exact ⟨_, _, rfl, .whole hne (hrun _)⟩

/-- All words but fields, strings and numbers are written in one way. -/
theorem sample_of_name (h : name cs = .token kind text n) :
    kind = .field ∨ String.ofList text = kind.sample := by
  simp only [name, token.injEq] at h
  obtain ⟨rfl, rfl, -⟩ := h
  split_ifs with hnull hand hor hnot
  · exact .inr (by rw [hnull]; rfl)
  · exact .inr (by rw [hand]; rfl)
  · exact .inr (by rw [hor]; rfl)
  · exact .inr (by rw [hnot]; rfl)
  · exact .inl rfl

/-- **Whatever is read as a token can be written by itself.** -/
theorem exists_spells_of_read (h : read c cs = .token kind text n) :
    ∃ ds, Spells ds [(kind, String.ofList text)] := by
  have hcomplete := complete_of_read h
  have hsample (h : String.ofList text = kind.sample) :
      ∃ ds, Spells ds [(kind, String.ofList text)] :=
    h ▸ TokenKind.spells_sample hcomplete.kind_ne
  have hread := h
  revert h
  fun_cases read c cs with
  | case13 =>
    intro h
    obtain rfl := kind_of_string h
    have hquote := quote_of_read hread
    rw [← String.toList_ofList (l := text)] at hquote
    exact ⟨_, spells_quoted hquote⟩
  | case14 =>
    intro h
    obtain rfl := kind_of_number h
    obtain ⟨ds, x, rfl, hnumeral⟩ := exists_numeral_of_number ‹_› h
    subst_vars
    exact ⟨_, Spells.numeral true hnumeral⟩
  | case17 =>
    intro h
    obtain rfl := kind_of_number h
    obtain ⟨ds, x, rfl, hnumeral⟩ := exists_numeral_of_number ‹_› h
    exact ⟨_, Spells.numeral false hnumeral⟩
  | case18 =>
    intro h
    rcases sample_of_name h with rfl | h
    · exact ⟨text, .fieldName (fieldName_of_read hread)⟩
    · exact hsample h
  | case1 | case2 | case3 | case4 | case6 | case7 | case9 | case10 | case11 | case12 =>
    intro h
    cases h
    subst_vars
    exact hsample rfl
  | _ =>
    intro h
    cases h

end Lexeme

/-- **The tokens of a text can be written in another one**, whichever of them and in
which order. -/
theorem exists_spells_of_mem {s : Scanner} {ts : List Token} (h : ∀ t ∈ ts, t ∈ s.tokens.tokens) :
    ∃ cs, Spells cs (ts.map Token.word) := by
  induction ts with
  | nil => exact ⟨[], .nil⟩
  | cons t ts ih =>
    obtain ⟨ht, hts⟩ := List.forall_mem_cons.1 h
    obtain ⟨-, c, cs, n, hread⟩ := Scanner.exists_read_of_mem_tokens ht
    obtain ⟨ds, hds⟩ := Lexeme.exists_spells_of_read hread
    rw [String.ofList_toList] at hds
    obtain ⟨es, hes⟩ := ih hts
    exact ⟨_, hds.blank hes⟩

theorem Scanner.Reads.kind_ne_finish {s s' : Scanner} {ws : List Word} (h : s.Reads ws s') :
    ∀ w ∈ ws, w.1 ≠ .finish := by
  induction h with
  | nil s => exact fun w hw => absurd hw List.not_mem_nil
  | blank _ _ ih => exact ih
  | token _ ht _ ih => exact List.forall_mem_cons.2 ⟨ht, ih⟩

/-- The end of a text is not written. -/
theorem Spells.kind_ne_finish {cs : List Char} {ws : List Word} (h : Spells cs ws) :
    ∀ w ∈ ws, w.1 ≠ .finish := by
  obtain ⟨p, hreads⟩ := h [] 0 endsWord_nil
  exact hreads.kind_ne_finish

/-! ## Texts that are read -/

/-- The tokens of a text, with its end if there is no stray symbol before it. -/
def Tokens.withEnd (ts : Tokens) : List Token :=
  ts.tokens ++ match ts.stop with
    | .ok position => [⟨.finish, "", position⟩]
    | .error _ => []

/-- The words of a text, its end among them. -/
def wordsOf (text : String) : List Word := (tokensOf text).withEnd.map Token.word

/-- Whether words are those of some text that is read under some limit. The length of
the text is always enough for one. -/
def Readable (ws : List Word) : Prop :=
  ∃ limit text f, parseFilter limit text = .ok f ∧ wordsOf text = ws

/-- Whether some text that is read begins with these words. -/
def Viable (us : List Word) : Prop := ∃ ws, Readable (us ++ ws)

/-- Whether some text that is read goes on behind these words with a word of this
kind. -/
def CanFollow (us : List Word) (k : TokenKind) : Prop := ∃ t, Viable (us ++ [(k, t)])

open Expectation

variable {us ws : List Word} {e e' : Expectation} {w : Word} {k : TokenKind} {cs : List Char}

/-- The words of a text that was spelled. -/
theorem wordsOf_of_spells (h : Spells cs ws) :
    wordsOf (String.ofList cs) = ws ++ [(.finish, "")] := by
  rw [← String.toList_ofList (l := cs)] at h
  obtain ⟨ts, stop, hts, rfl⟩ := h.tokensOf
  rw [wordsOf, hts, Tokens.withEnd, List.map_append]
  rfl

theorem wordsOf_of_allBlank {text : String} (h : allBlank text = true) :
    wordsOf text = [(.finish, "")] := by
  have hspells : Spells text.toList [] := by
    have hblanks := Spells.nil.blanks (List.all_eq_true.1 h)
    rwa [List.append_nil] at hblanks
  have hwords := wordsOf_of_spells hspells
  rwa [String.ofList_toList] at hwords

/-- A text is blank, or its words lead through a filter to the end of the text, if it
is read. -/
theorem leads_of_readable (h : Readable ws) :
    ws = [(.finish, "")] ∨ Leads start ws ⟨.done, 0⟩ := by
  obtain ⟨limit, text, f, hparse, rfl⟩ := h
  by_cases hblank : allBlank text = true
  · exact .inl (wordsOf_of_allBlank hblank)
  · obtain ⟨f, rfl⟩ : ∃ g, f = some g := by
      rw [parseFilter_eq limit text hblank] at hparse
      obtain ⟨s, -, hparse⟩ := bind_eq_ok hparse
      obtain ⟨p, -, hparse⟩ := bind_eq_ok hparse
      split at hparse
      · cases hparse
        exact ⟨_, rfl⟩
      · cases hparse
    obtain ⟨ts, stop, n, hts, hd, -⟩ := derives_of_parseFilter hparse
    refine .inr ?_
    rw [wordsOf, hts, Tokens.withEnd, List.map_append]
    exact (hd.leads 0).append (.single (.finish ""))

/-- Words that can be written and lead through a filter are those of a text that is
read. -/
theorem readable_of_leads (hs : Spells cs ws) (h : Leads start ws ⟨.connective, 0⟩) :
    Readable (ws ++ [(.finish, "")]) := by
  obtain ⟨f, n, hd⟩ := denotes_iff_leads.2 h
  have hsentence : Sentence (.chain .or) (String.ofList cs).toList f := by
    rw [String.toList_ofList]
    exact ⟨ws, n, hs, hd⟩
  exact ⟨_, _, some f, hsentence.readAs.1 _ (Nat.le_refl _), wordsOf_of_spells hs⟩

/-- **Words that can be written are viable if they lead anywhere**, since whatever
they leave open can be closed. -/
theorem viable_of_leads (hs : Spells cs us) (h : Leads start us e) : Viable us := by
  obtain ⟨ds, ws, hds, hws⟩ := e.completable (h.phase_ne_done nofun hs.kind_ne_finish)
  have hread := readable_of_leads (hs.blank hds) (h.append hws)
  rw [List.append_assoc] at hread
  exact ⟨_, hread⟩

/-- Where words lead somewhere, there is a step for each word that can come next. The
end of a text that is blank is an exception, since no filter begins there. -/
theorem step_of_viable (h : Leads start us e) (hv : Viable (us ++ [w])) :
    (us = [] ∧ w = (.finish, "")) ∨ ∃ e', e.Step w e' := by
  obtain ⟨ws, hread⟩ := hv
  rcases leads_of_readable hread with hblank | hleads
  · cases us with
    | nil => exact .inl ⟨rfl, (List.cons.inj hblank).1⟩
    | cons u us =>
      have hlength := congrArg List.length hblank
      simp at hlength
  · rw [List.append_assoc] at hleads
    exact .inr (h.exists_step hleads)

/-- **What can follow words that lead somewhere** are the kinds that are due there, and
the end of the text if there are no words. -/
theorem canFollow_iff (hs : Spells cs us) (h : Leads start us e) :
    CanFollow us k ↔ k ∈ e.due ∨ (us = [] ∧ k = .finish) := by
  constructor
  · rintro ⟨t, hv⟩
    rcases step_of_viable h hv with ⟨hnil, hw⟩ | ⟨e', hstep⟩
    · exact .inr ⟨hnil, congrArg Prod.fst hw⟩
    · exact .inl hstep.mem_due
  · rintro (hk | ⟨rfl, rfl⟩)
    · obtain ⟨e', hstep⟩ := exists_step_of_mem_due hk
      refine ⟨k.sample, ?_⟩
      by_cases hfinish : k = .finish
      · subst hfinish
        -- the end of the text is due behind a whole filter only
        cases hstep with
        | literal hsuits => exact absurd rfl hsuits.kind_ne_finish
        | comparison t hk => exact absurd hk (by decide)
        | connective t hk => exact absurd hk (by decide)
        | finish t =>
          have hread := readable_of_leads hs h
          rw [← List.append_nil (us ++ _)] at hread
          exact ⟨[], hread⟩
      · obtain ⟨ds, hds⟩ := TokenKind.spells_sample hfinish
        exact viable_of_leads (hs.blank hds) (h.append (.single hstep))
    · have hblank : allBlank "" = true := rfl
      have hread : parseFilter 0 "" = .ok none := by
        rw [parseFilter, if_pos hblank]
        rfl
      exact ⟨"", [], 0, "", none, hread, wordsOf_of_allBlank hblank⟩

end RecordQuery
