import Mathlib.Data.List.Sort
import RecordQuery.Filter.Evaluation
import RecordQuery.Reference.Engine
/-!
# What a filter reads of a document

Looking up a name reads the members under its spellings, and what stands first among
them in the order of the keys does not depend on the other members
(`findMember?_congr`). A path looks up its first segment in the document itself and
everything behind it in what it finds there, so the verdict on a document depends on
the members under the spellings of first segments (`evaluate_local`).
-/

namespace RecordQuery

/-! ## Members -/

namespace Json

variable {α : Type} {as bs : List (String × α)}

theorem member?_cons (key : String) (m : String × α) (rest : List (String × α)) :
    member? key (m :: rest) = if m.1 = key then some m.2 else member? key rest := by
  rw [member?, List.find?_cons]
  by_cases h : m.1 = key
  · rw [if_pos h, h, beq_self_eq_true]
    rfl
  · rw [if_neg h, beq_false_of_ne h]
    rfl

/-- Sorted members are what is found under their keys. -/
theorem mem_iff_member? (h : Sorted as) (m : String × α) :
    m ∈ as ↔ member? m.1 as = some m.2 := by
  induction as with
  | nil => simp [member?]
  | cons first rest ih =>
    obtain ⟨hfirst, hrest⟩ := List.pairwise_cons.1 h
    rw [List.mem_cons, member?_cons]
    split
    · next heq =>
      have hm : m ∉ rest := fun hm => String.lt_irrefl _ (heq ▸ hfirst m hm)
      rw [or_iff_left hm, Option.some.injEq]
      exact ⟨fun hfirst => hfirst ▸ rfl, fun hvalue => (Prod.ext heq hvalue).symm⟩
    · next hne =>
      rw [or_iff_right fun hm : m = first => hne (congrArg Prod.fst hm.symm)]
      exact ih hrest

/-- Where the same is found under some keys, the members under them are the same. -/
theorem filter_congr_of_member? (ha : Sorted as) (hb : Sorted bs) {p : String → Bool}
    (h : ∀ key, p key = true → member? key as = member? key bs) :
    as.filter (fun m => p m.1) = bs.filter (fun m => p m.1) := by
  have : Std.Irrefl fun a b : String × α => a.1 < b.1 := ⟨fun a => String.lt_irrefl a.1⟩
  refine List.Pairwise.eq_of_mem_iff (ha.filter _) (hb.filter _) fun m => ?_
  rw [List.mem_filter, List.mem_filter, mem_iff_member? ha, mem_iff_member? hb]
  exact and_congr_left fun hp => by rw [h m.1 hp]

/-- Putting a member changes nothing under the other keys. -/
theorem member?_put_of_ne {key other : String} (h : key ≠ other) (value : α)
    (as : List (String × α)) : member? key (put other value as) = member? key as := by
  induction as with
  | nil => rw [put, member?_cons, if_neg h.symm]
  | cons m rest ih =>
    rw [put]
    split
    · next heq => rw [member?_cons, member?_cons, if_neg h.symm, if_neg (heq ▸ h.symm)]
    · split
      · rw [member?_cons, if_neg h.symm]
      · rw [member?_cons, member?_cons, ih]

/-- A member that is put is found under its key. -/
theorem member?_put_self (key : String) (value : α) (as : List (String × α)) :
    member? key (put key value as) = some value := by
  induction as with
  | nil => rw [put, member?_cons, if_pos rfl]
  | cons m rest ih =>
    rw [put]
    split
    · rw [member?_cons, if_pos rfl]
    · next hne =>
      split
      · rw [member?_cons, if_pos rfl]
      · rw [member?_cons, if_neg (Ne.symm hne), ih]

theorem get?_insert_self (ms : Members α) (key : String) (value : α) :
    (ms.insert key value).get? key = some value := member?_put_self key value ms.list

theorem get?_insert_of_ne {key other : String} (h : key ≠ other) (ms : Members α) (value : α) :
    (ms.insert other value).get? key = ms.get? key := member?_put_of_ne h value ms.list

/-- **A name reads the members under its spellings** and no other ones. -/
theorem findMember?_congr {a b : Members Value} {name : String}
    (h : ∀ key, sameUpToCase key name = true → a.get? key = b.get? key) :
    findMember? name a.list = findMember? name b.list := by
  have hexact : member? name a.list = member? name b.list :=
    h name (sameUpToCase_iff.2 rfl)
  have hspelled := filter_congr_of_member? a.sorted b.sorted h
  rw [findMember?, findMember?, hexact, ← List.head?_filter, hspelled, List.head?_filter]

end Json

open Json

/-! ## Verdicts -/

variable {r s : Record} {f : Filter}

/-- A path reads one field of the record that it starts from. -/
theorem Record.resolve_congr {path : List String}
    (h : ∀ name ∈ path.head?, r.field? name = s.field? name) : r.resolve path = s.resolve path := by
  cases path with
  | nil => rfl
  | cons name rest =>
    have hsegment : r.segment name = s.segment name := by
      rw [segment, segment, h name rfl]
    cases rest <;> simp only [resolve, resolveFrom, hsegment]

/-- A filter has no other access to a record than its conditions. -/
theorem Filter.verdict_congr [PatternEngine] {patterns patterns' : Patterns}
    (h : ∀ c ∈ f.conditions, c.verdict patterns r = c.verdict patterns' s) :
    f.verdict patterns r = f.verdict patterns' s := by
  induction f with
  | condition c => exact h c List.mem_cons_self
  | junction o left right negated ihl ihr =>
    rw [conditions_junction, List.forall_mem_append] at h
    rw [verdict, verdict, ihl h.1, ihr h.2]

/-- Whether a key is a spelling of what a path in a filter begins with. -/
def Filter.Mentions (f : Filter) (key : String) : Prop :=
  ∃ c ∈ f.conditions, ∃ name ∈ c.path.head?, sameUpToCase key name = true

instance (f : Filter) (key : String) : Decidable (f.Mentions key) :=
  inferInstanceAs (Decidable (∃ c ∈ _, ∃ name ∈ _, _))

/-- **A filter says the same about documents that have the same members under the
keys it mentions**, whatever other members they have. -/
theorem evaluate_local [PatternEngine] {a b : Members Value}
    (h : ∀ key, f.Mentions key → a.get? key = b.get? key) :
    evaluate (some f) (.document (.object a.list)) =
      evaluate (some f) (.document (.object b.list)) := by
  have hresolve : ∀ c ∈ f.conditions, (Record.document (.object a.list)).resolve c.path =
      (Record.document (.object b.list)).resolve c.path := by
    intro c hc
    refine Record.resolve_congr fun name hname => ?_
    have hfind : findMember? name a.list = findMember? name b.list :=
      findMember?_congr fun key hkey => h key ⟨c, hc, name, hname, hkey⟩
    rw [Record.field?, Value.field?, Record.field?, Value.field?, hfind]
  have hverdict (patterns : Patterns) : f.verdict patterns (.document (.object a.list)) =
      f.verdict patterns (.document (.object b.list)) :=
    Filter.verdict_congr fun c hc => by rw [Condition.verdict, Condition.verdict, hresolve c hc]
  simp only [evaluate, hverdict]

section

open Reference

/-- A first name that is short, or an age. -/
def shortNameOrAge : Filter :=
  .or (.condition ⟨["name", "first"], .like "^..?.?$", false⟩)
    (.condition ⟨["AGE"], .compares .gt (.ofInt 30), false⟩)

/-- A person whose name stands under two keys, neither of which is the one asked for. -/
def person : Members Value :=
  .ofList [("Name", .null), ("NAME", .object [("first", .string "Ann")]), ("Age", .ofInt 25)]

/-- A zip code tells nothing about them. -/
theorem person_local :
    (∀ key, shortNameOrAge.Mentions key →
      person.get? key = (person.insert "zip" (.ofInt 8000)).get? key) ∧
    evaluate (some shortNameOrAge) (.document (.object person.list)) =
      evaluate (some shortNameOrAge) (.document (.object
        (person.insert "zip" (.ofInt 8000)).list)) := by
  have h : ∀ key, shortNameOrAge.Mentions key →
      person.get? key = (person.insert "zip" (.ofInt 8000)).get? key := by
    intro key hkey
    have hzip : key ≠ "zip" := by
      rintro rfl
      exact absurd hkey (by decide)
    exact (get?_insert_of_ne hzip _ _).symm
  exact ⟨h, evaluate_local h⟩

end

end RecordQuery
