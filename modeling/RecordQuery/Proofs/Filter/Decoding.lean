import RecordQuery.Filter.Coding
import RecordQuery.Proofs.Json.Decoding
import RecordQuery.Proofs.Filter.Reparsing
import RecordQuery.Proofs.Reference.Reading
/-!
# Which filters survive their JSON text

A condition takes up three levels of nesting and every connective above it two
more, so a filter of depth `d` is read back from its JSON text where `2 * d + 1`
levels are allowed, and only there (`Filter.decode?_encode`). With a format that
reads 127 levels of nesting those are the filters of depth 63 and less. The parser's
own limit is one more, and the filters of that depth are read from a text that a user
wrote, but not from their JSON text (`isNullChain_not_carried`).
-/

namespace RecordQuery

open Json

/-! ## Parts -/

theorem Connective.choice?_name (limit : Nat) (c : Connective) :
    Outline.choice? limit names (.string (some c.name)) = some c := by
  cases c <;> rfl

theorem Comparison.choice?_name (limit : Nat) (c : Comparison) :
    Outline.choice? limit names (.string (some c.name)) = some c := by
  cases c <;> rfl

theorem TextTest.choice?_name (limit : Nat) (t : TextTest) :
    Outline.choice? limit names (.string (some t.name)) = some t := by
  cases t <;> rfl

theorem number?_ofBinary64 {x : Binary64} (hx : x.isFinite = true) :
    (Value.ofBinary64 x).outline.number? = some (.float x hx) := by
  rw [Value.ofBinary64, Number.ofBinary64?, dif_pos hx]
  rfl

variable {limit : Nat} {path : List String} {negated : Bool}

theorem decodeText?_outline {t : TextTest} {value : String} :
    Condition.decodeText? (limit + 1) (Value.object [
      ("field_path", .ofStrings path), ("value", .string value),
      ("condition_type", .string t.name), ("is_negative", .bool negated)]).outline =
    if limit = 0 then none else some ⟨path, t.test value, negated⟩ := by
  rw [Condition.decodeText?, Outline.fields?_object (Nat.succ_ne_zero _) (by simp)]
  split <;> simp [*, List.lookup_cons, Value.outline, Outline.strings?_ofStrings, Outline.string?,
    TextTest.choice?_name, Outline.bool?]

theorem decodeNumber?_outline {comparison : Comparison} {x : Binary64}
    (hx : x.isFinite = true) :
    Condition.decodeNumber? (limit + 1) (Value.object [
      ("field_path", .ofStrings path), ("value", .ofBinary64 x),
      ("condition_type", .string comparison.name), ("is_negative", .bool negated)]).outline =
    if limit = 0 then none else some ⟨path, .compares comparison x, negated⟩ := by
  rw [Condition.decodeNumber?, Outline.fields?_object (Nat.succ_ne_zero _) (by simp)]
  split <;> simp [*, List.lookup_cons, Value.outline, Outline.strings?_ofStrings,
    number?_ofBinary64 hx, Number.toBinary64, Comparison.choice?_name, Outline.bool?]

theorem decodeNull?_outline :
    Condition.decodeNull? (limit + 1) (Value.object [
      ("field_path", .ofStrings path), ("is_negative", .bool negated)]).outline =
    if limit = 0 then none else some ⟨path, .isNull, negated⟩ := by
  rw [Condition.decodeNull?, Outline.fields?_object (Nat.succ_ne_zero _) (by simp)]
  split <;> simp [*, List.lookup_cons, Value.outline, Outline.strings?_ofStrings, Outline.bool?]

theorem decodeJunction?_outline (decode? : Outline → Option Filter) (left right : Value)
    (connective : Connective) :
    Filter.decodeJunction? (limit + 1) decode? (Value.object [
      ("left", left), ("right", right),
      ("op_type", .string connective.name), ("is_negative", .bool negated)]).outline = do
    let l ← decode? left.outline
    let r ← decode? right.outline
    return .junction connective l r negated := by
  rw [Filter.decodeJunction?, Outline.fields?_object (Nat.succ_ne_zero _) (by simp)]
  simp [List.lookup_cons, Value.outline, Connective.choice?_name, Outline.bool?]

/-! ## Filters -/

namespace Filter

variable {f : Filter}

/-- A condition takes up three levels. -/
theorem decode?_condition {c : Condition} (hc : c.test.Finite) :
    decode? (limit + 2) c.encode.outline =
      if limit = 0 then none else some (.condition c) := by
  obtain ⟨path, test, negated⟩ := c
  have hkind : ∀ d : Condition, Option.map condition (if limit = 0 then none else some d) =
      if limit = 0 then none else some (.condition d) := by
    intro d
    split <;> rfl
  rw [← hkind]
  cases test with
  | equals value => exact congrArg (Option.map condition) (decodeText?_outline (t := .equals))
  | like pattern => exact congrArg (Option.map condition) (decodeText?_outline (t := .like))
  | compares comparison x => exact congrArg (Option.map condition) (decodeNumber?_outline hc)
  | isNull => exact congrArg (Option.map condition) decodeNull?_outline

theorem decode?_of_lt_two (h : limit < 2) (o : Outline) : decode? limit o = none := by
  match limit, h with
  | 0, _ | 1, _ => rfl

/-- **A filter is read back where there is room for two levels under each
connective, and three under a condition.** -/
theorem decode?_encode (hf : f.Finite) (limit : Nat) :
    decode? limit f.encode.outline = if 2 * f.depth + 1 ≤ limit then some f else none := by
  induction f generalizing limit with
  | condition c =>
    rw [encode, depth]
    rcases Nat.lt_or_ge limit 2 with hlimit | hlimit
    · rw [decode?_of_lt_two hlimit, if_neg (by omega)]
    · obtain ⟨limit, rfl⟩ := Nat.exists_eq_add_of_le' hlimit
      rw [decode?_condition (hf c List.mem_cons_self)]
      split
      · rw [if_neg (by omega)]
      · rw [if_pos (by omega)]
  | junction o l r n ihl ihr =>
    have hl : l.Finite := fun c hc => hf c (List.mem_append_left _ hc)
    have hr : r.Finite := fun c hc => hf c (List.mem_append_right _ hc)
    rw [depth]
    rcases Nat.lt_or_ge limit 2 with hlimit | hlimit
    · rw [decode?_of_lt_two hlimit, if_neg (by omega)]
    · obtain ⟨limit, rfl⟩ := Nat.exists_eq_add_of_le' hlimit
      refine (decodeJunction?_outline (decode? limit) l.encode r.encode o).trans ?_
      rw [ihl hl, ihr hr]
      by_cases hroom : 2 * l.depth + 1 ≤ limit ∧ 2 * r.depth + 1 ≤ limit
      · rw [if_pos hroom.1, if_pos hroom.2, if_pos (by omega)]
        rfl
      · -- what does not fit on one side is refused whatever the other one is
        rw [if_neg (by omega : ¬ 2 * (1 + max l.depth r.depth) + 1 ≤ limit + 2)]
        split
        · rw [if_neg (by omega)]
          rfl
        · rfl

section

variable [Format]

theorem ofJson?_encode (hformat : Format.Conforms) (hfloats : Format.ReadsFloatsBack)
    (hnesting : Format.nesting = 127) (hf : f.Finite) :
    ofJson? f.encode.text = if f.depth ≤ 63 then some f else none := by
  have hroom : 2 * f.depth + 1 ≤ Format.nesting ↔ f.depth ≤ 63 := by
    rw [hnesting]
    omega
  rw [ofJson?, hformat.read_text fun n _ => hformat.readBack hfloats n]
  refine (decode?_encode hf Format.nesting).trans ?_
  simp only [hroom]

/-- **A filter of finite numbers is read back from its JSON text up to depth 63,
and refused from depth 64 on.** -/
theorem ofJson?_settled (hformat : Format.Conforms) (hfloats : Format.ReadsFloatsBack)
    (hnesting : Format.nesting = 127) (hf : f.Finite) :
    (f.depth ≤ 63 → ofJson? f.encode.text = some f ∧ f.same f = true) ∧
      (64 ≤ f.depth → ofJson? f.encode.text = none) := by
  rw [ofJson?_encode hformat hfloats hnesting hf]
  refine ⟨fun hdepth => ⟨if_pos hdepth, hf.same_self⟩, fun hdepth => if_neg ?_⟩
  omega

end

section

open Reference

example : (condition ⟨["a"], .isNull, false⟩).encode.text =
    "\x7b\"NullCondition\":\x7b\"field_path\":[\"a\"],\"is_negative\":false\x7d\x7d" := by
  decide

/-- A condition on a text, and one on a number behind it a number of times. -/
def ratingChain (k : Nat) : Filter :=
  (condition ⟨["author", "name"], .like "^\"A", true⟩).followedBy
    ⟨["rating"], .compares .ge (.ofInt (-3)), false⟩ k

theorem finite_ratingChain (k : Nat) : (ratingChain k).Finite := by
  intro c hc
  rcases mem_conditions_followedBy hc with hc | rfl
  · obtain rfl := List.mem_singleton.1 hc
    trivial
  · exact (by decide : (Binary64.ofInt (-3)).isFinite = true)

/-- Of two chains, one condition apart, the shorter one is read back. -/
theorem ratingChain_settled :
    (ratingChain 62).Finite ∧ (ratingChain 63).Finite ∧
      ofJson? (ratingChain 62).encode.text = some (ratingChain 62) ∧
      ofJson? (ratingChain 63).encode.text = none := by
  have hshort := ofJson?_settled format_conforms format_readsFloatsBack rfl (finite_ratingChain 62)
  have hlong := ofJson?_settled format_conforms format_readsFloatsBack rfl (finite_ratingChain 63)
  refine ⟨finite_ratingChain 62, finite_ratingChain 63, (hshort.1 ?_).1, hlong.2 ?_⟩
  · rw [ratingChain, depth_followedBy]
    decide
  · rw [ratingChain, depth_followedBy]
    decide

end

end Filter

/-! ## Filters that were parsed -/

/-- A chain of a test for null, repeated a number of times. -/
def isNullChain (k : Nat) : Filter := (Filter.condition isNullTest).followedBy isNullTest k

theorem depth_isNullChain (k : Nat) : (isNullChain k).depth = k + 1 := by
  rw [isNullChain, Filter.depth_followedBy, Filter.depth, Nat.add_comm]

/-- The parser's default limit is that of the longest chain it reads. -/
theorem parseFilter_isNullChain {k : Nat} (hk : k < defaultDepth) :
    parseFilter defaultDepth ((Filter.condition isNullTest).chainText isNullTest k) =
      .ok (some (isNullChain k)) := by
  have htest : isNullTest.Writable := by decide
  have hchain : ∀ c ∈ (Filter.condition isNullTest).conditions, c.Writable := by decide
  refine parseFilter_chainText hchain htest rfl (by decide) ?_
  rw [Filter.depth]
  omega

/-- **A filter that was parsed is carried by its JSON text exactly up to depth
63**, so every filter is as long as the parser's limit is no higher than that. -/
theorem carried_iff_depth_le [Format] (hformat : Format.Conforms)
    (hfloats : Format.ReadsFloatsBack) (hnesting : Format.nesting = 127) {text : String}
    {f : Filter} (h : parseFilter limit text = .ok (some f)) :
    ((∃ g, Filter.ofJson? f.encode.text = some g ∧ f.same g = true) ↔ f.depth ≤ 63) ∧
      (63 < f.depth → Filter.ofJson? f.encode.text = none) ∧
      (limit ≤ 63 → ∃ g, Filter.ofJson? f.encode.text = some g ∧ f.same g = true) := by
  have hfinite := Filter.finite_of_writable (writable_of_parseFilter h)
  obtain ⟨-, -, -, -, -, -, hdepth⟩ := derives_of_parseFilter h
  have hcarried : (∃ g, Filter.ofJson? f.encode.text = some g ∧ f.same g = true) ↔
      f.depth ≤ 63 := by
    rw [Filter.ofJson?_encode hformat hfloats hnesting hfinite]
    refine ⟨?_, fun hle => ⟨f, if_pos hle, hfinite.same_self⟩⟩
    rintro ⟨g, hg, -⟩
    by_contra hle
    rw [if_neg hle] at hg
    cases hg
  refine ⟨hcarried, fun hlt => ?_, fun hlimit => hcarried.2 ?_⟩
  · rw [Filter.ofJson?_encode hformat hfloats hnesting hfinite, if_neg (Nat.not_le.2 hlt)]
  · exact hdepth.trans (max_le (by decide) hlimit)

section

open Reference

/-- One condition fewer than the default limit, joined in a chain, are carried. -/
theorem isNullChain_carried :
    parseFilter defaultDepth ((Filter.condition isNullTest).chainText isNullTest 62) =
        .ok (some (isNullChain 62)) ∧
      ∃ g, Filter.ofJson? (isNullChain 62).encode.text = some g ∧
        (isNullChain 62).same g = true := by
  have hread := parseFilter_isNullChain (k := 62) (by decide)
  have hcarried := carried_iff_depth_le format_conforms format_readsFloatsBack rfl hread
  refine ⟨hread, hcarried.1.2 ?_⟩
  rw [depth_isNullChain]

/-- As many conditions as the default limit allows are read, but not from the
JSON text of what was read. -/
theorem isNullChain_not_carried :
    parseFilter defaultDepth ((Filter.condition isNullTest).chainText isNullTest 63) =
        .ok (some (isNullChain 63)) ∧
      ¬ ∃ g, Filter.ofJson? (isNullChain 63).encode.text = some g ∧
        (isNullChain 63).same g = true := by
  have hread := parseFilter_isNullChain (k := 63) (by decide)
  have hfinite := Filter.finite_of_writable (writable_of_parseFilter hread)
  refine ⟨hread, ?_⟩
  rintro ⟨g, hg, -⟩
  rw [Filter.ofJson?_encode format_conforms format_readsFloatsBack rfl hfinite,
    depth_isNullChain] at hg
  cases hg

end

end RecordQuery
