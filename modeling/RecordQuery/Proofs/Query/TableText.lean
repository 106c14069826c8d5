import Mathlib.Data.List.Forall2
import RecordQuery.Proofs.Json.Rearranging
import RecordQuery.Proofs.Query.Lines
import RecordQuery.Proofs.Reference.Reading
import RecordQuery.Query.Run
import RecordQuery.Reference.Engine
/-!
# The JSON texts of tables

The objects of a table, and the fields of each, may be written in any order
(`PolicyTable.WrittenAs`), and with any spaces between them. From each such text the table
is read that was written, with every policy in its place, so it permits and refuses the
same queries (`PolicyTable.enforced_alike`).
-/

namespace RecordQuery

open Json

/-! ## Members in any order -/

section Members

variable {α β : Type}

theorem nodup_keys_of_sorted {members : List (String × α)} (h : Sorted members) :
    (members.map Prod.fst).Nodup := by
  rw [List.Nodup, List.pairwise_map]
  refine h.imp fun {a b} hlt heq => ?_
  rw [heq] at hlt
  exact String.lt_irrefl b.1 hlt

theorem sorted_map {f : α → β} {members : List (String × α)} (h : Sorted members) :
    Sorted (members.map fun m => (m.1, f m.2)) :=
  List.pairwise_map.2 h

/-- **Members are read back from a list of them**, in whatever order it has them. -/
theorem ofList_of_perm {m : Members α} {l : List (String × α)} (h : l.Perm m.list) :
    Members.ofList l = m := by
  obtain ⟨list, sorted⟩ := m
  have hkeys : (l.map Prod.fst).Nodup := (h.map Prod.fst).nodup_iff.2 (nodup_keys_of_sorted sorted)
  have hlist : sortMembers l = list := by
    rw [sortMembers_perm hkeys h, sortMembers_of_sorted sorted]
  subst hlist
  rfl

/-- Several steps succeed if each of them does. -/
theorem mapM_eq_some_of_forall₂ {f : β → Option α} {as : List α} {bs : List β}
    (h : List.Forall₂ (fun a b => f b = some a) as bs) : bs.mapM f = some as := by
  induction h with
  | nil => rfl
  | cons hb _ ih =>
    rw [List.mapM_cons, hb, ih]
    rfl

end Members

/-! ## Values without numbers -/

/-- An object has no numbers if its members have none. -/
theorem numbers_object {members : List (String × Value)} (h : ∀ m ∈ members, m.2.numbers = []) :
    (Value.object members).numbers = [] := by
  rw [Value.numbers]
  induction members with
  | nil => rfl
  | cons m rest ih =>
    obtain ⟨hm, hrest⟩ := List.forall_mem_cons.1 h
    rw [memberNumbers, hm, ih hrest, List.append_nil]

theorem numbers_ofMembers {members : List (String × Value)}
    (h : ∀ m ∈ members, m.2.numbers = []) : (Value.ofMembers members).numbers = [] :=
  numbers_object fun m hm => h m (mem_of_mem_sortMembers hm)

/-- A list of strings has no numbers. -/
theorem numbers_ofStrings (ss : List String) : (Value.ofStrings ss).numbers = [] := by
  rw [Value.ofStrings, Value.numbers]
  induction ss with
  | nil => rfl
  | cons s rest ih => rw [List.map_cons, itemNumbers, ih, Value.numbers, List.nil_append]

/-- A value without numbers has none that is not read back. -/
theorem readBack_of_numbers_eq_nil [Format] {v : Value} (h : v.numbers = []) :
    ∀ n ∈ v.numbers, n.ReadBack := by
  intro n hn
  rw [h] at hn
  exact absurd hn List.not_mem_nil

/-! ## Policies -/

theorem Operation.choice?_name (limit : Nat) (o : Operation) :
    Outline.choice? limit names (.string (some o.name)) = some o := by
  cases o <;> rfl

namespace FieldPolicy

/-- The members that a policy is written with. -/
def members (p : FieldPolicy) : List (String × Value) :=
  [("denied", .ofStrings (p.denied.map Operation.name)),
    ("sorting_disabled", .bool p.sortingDisabled)] ++
    match p.literalType with
    | some t => [("value_type", .string t.name)]
    | none => []

variable (p : FieldPolicy)

theorem sorted_members : Sorted p.members := by
  have hdenied : "denied" < "sorting_disabled" := by decide
  have htype : "sorting_disabled" < "value_type" := by decide
  rw [members]
  cases p.literalType with
  | none => exact List.pairwise_pair.2 hdenied
  | some t =>
    refine List.pairwise_cons.2 ⟨List.forall_mem_cons.2 ⟨hdenied, ?_⟩, List.pairwise_pair.2 htype⟩
    exact List.forall_mem_singleton.2 (String.lt_trans hdenied htype)

theorem encode_eq : p.encode = .object p.members :=
  congrArg Value.object (sortMembers_of_sorted p.sorted_members)

theorem lookup_denied :
    p.members.lookup "denied" = some (.ofStrings (p.denied.map Operation.name)) := rfl

theorem lookup_sortingDisabled :
    p.members.lookup "sorting_disabled" = some (.bool p.sortingDisabled) := rfl

theorem lookup_literalType :
    p.members.lookup "value_type" = p.literalType.map fun t => .string t.name := by
  rw [members]
  cases p.literalType <;> rfl

/-- All operations that are denied are read back, repeated ones among them. -/
theorem operations_ofStrings (limit : Nat) (operations : List Operation) :
    ((Value.ofStrings (operations.map Operation.name)).outline.items? (limit + 1)).bind
      (List.mapM (Outline.choice? limit Operation.names)) = some operations := by
  rw [Value.ofStrings, Value.outline, outlines_eq_map, Outline.items?,
    if_neg (Nat.succ_ne_zero limit), Option.bind_some, List.map_map, List.map_map, List.mapM_map]
  exact (mapM_eq_some fun o _ => Operation.choice?_name limit o).trans
    (congrArg some (List.map_id operations))

/-- **A policy is read back from its JSON**, whether it asks for a type or not. -/
theorem decode?_encode (limit : Nat) : decode? (limit + 2) p.encode.outline = some p := by
  have hdenied := operations_ofStrings limit p.denied
  have hroom : limit + 2 - 1 = limit + 1 := rfl
  rw [decode?, encode_eq, Outline.fields?_object (Nat.succ_ne_zero _)
    (nodup_keys_of_sorted p.sorted_members)]
  simp only [bind, Option.bind_some, lookup_denied, lookup_sortingDisabled, lookup_literalType,
    Option.map_some, decodePart?, hroom, hdenied, Nat.add_sub_cancel]
  obtain ⟨denied, disabled, literal⟩ := p
  cases literal with
  | none => rfl
  | some t => cases t <;> rfl

theorem numbers_encode : p.encode.numbers = [] := by
  refine numbers_ofMembers (List.forall_mem_append.2 ⟨?_, ?_⟩)
  · exact List.forall_mem_cons.2 ⟨numbers_ofStrings _, List.forall_mem_singleton.2 rfl⟩
  · cases p.literalType with
    | none => exact nofun
    | some t => exact List.forall_mem_singleton.2 rfl

end FieldPolicy

/-! ## Tables -/

/-- What the policies of an object are written as, with its fields in any order. -/
def ObjectPolicy.WrittenAs (o : ObjectPolicy) (v : Value) : Prop :=
  ∃ fields : List (String × FieldPolicy), fields.Perm o.list ∧
    v = .object (fields.map fun m => (m.1, m.2.encode))

namespace PolicyTable

/-- What a table is written as, with its objects, and the fields of each, in any order. -/
def WrittenAs (t : PolicyTable) (v : Value) : Prop :=
  ∃ (objects : List (String × ObjectPolicy)) (members : List (String × Value)),
    objects.Perm t.objects.list ∧
    List.Forall₂ (fun o m => m.1 = o.1 ∧ ObjectPolicy.WrittenAs o.2 m.2) objects members ∧
    v = .object members

/-- The texts of a table, with spaces wherever they may stand. -/
def HasText [Format] (t : PolicyTable) (text : String) : Prop :=
  ∃ v, t.WrittenAs v ∧ v.outline.WrittenAs text.toList

end PolicyTable

/-- Members are read one by one, each with its key. -/
theorem mapM_members {α : Type} {decode? : Outline → Option α} {values : List (String × α)}
    {members : List (String × Value)}
    (h : List.Forall₂ (fun a m => m.1 = a.1 ∧ decode? m.2.outline = some a.2) values members) :
    (members.map fun m => (m.1, m.2.outline)).mapM
      (fun m => (decode? m.2).map fun a => (m.1, a)) = some values := by
  refine mapM_eq_some_of_forall₂ (List.forall₂_map_right_iff.2 (h.imp ?_))
  rintro ⟨key, a⟩ ⟨_, v⟩ ⟨rfl, hv⟩
  exact congrArg (Option.map _) hv

variable {v : Value} {limit : Nat}

theorem decodeObject?_of_writtenAs {o : ObjectPolicy} (h : ObjectPolicy.WrittenAs o v) :
    decodeObject? (limit + 3) v.outline = some o := by
  obtain ⟨fields, hperm, rfl⟩ := h
  have hfields : List.Forall₂ (fun a m => m.1 = a.1 ∧
      FieldPolicy.decode? (limit + 2) m.2.outline = some a.2) fields
      (fields.map fun m => (m.1, m.2.encode)) := by
    rw [List.forall₂_map_right_iff, List.forall₂_same]
    exact fun m _ => ⟨rfl, m.2.decode?_encode limit⟩
  have hroom : limit + 3 - 1 = limit + 2 := rfl
  rw [decodeObject?, Outline.members?_object (Nat.succ_ne_zero _)]
  simp only [bind, Option.bind_some, hroom, mapM_members hfields]
  exact congrArg some (ofList_of_perm hperm)

/-- **A table is read from what it is written as.** -/
theorem PolicyTable.decode?_of_writtenAs {t : PolicyTable} (h : t.WrittenAs v) :
    decode? (limit + 4) v.outline = some t := by
  obtain ⟨objects, members, hperm, hall, rfl⟩ := h
  have hobjects : List.Forall₂ (fun a m => m.1 = a.1 ∧
      decodeObject? (limit + 3) m.2.outline = some a.2) objects members :=
    hall.imp fun o m hm => ⟨hm.1, decodeObject?_of_writtenAs hm.2⟩
  have hroom : limit + 4 - 1 = limit + 3 := rfl
  rw [decode?, Outline.members?_object (Nat.succ_ne_zero _)]
  simp only [bind, Option.bind_some, hroom, mapM_members hobjects]
  exact congrArg (fun objects => some (PolicyTable.mk objects)) (ofList_of_perm hperm)

namespace PolicyTable

/-- What a table is written as has no numbers. -/
theorem numbers_encode (t : PolicyTable) : t.encode.numbers = [] :=
  numbers_ofMembers (List.forall_mem_map.2 fun _ _ =>
    numbers_ofMembers (List.forall_mem_map.2 fun m _ => m.2.numbers_encode))

section

variable [Format] {t : PolicyTable} {text : String}

/-- **A table is read from its texts.** They are four levels deep, with their lists of
denied operations. -/
theorem ofJson?_of_hasText (hformat : Format.Conforms) (hnesting : 4 ≤ Format.nesting)
    (h : t.HasText text) : ofJson? text = some t := by
  obtain ⟨v, hv, htext⟩ := h
  obtain ⟨limit, hlimit⟩ := Nat.exists_eq_add_of_le' hnesting
  rw [ofJson?, hformat.read_of_writtenAs htext, hlimit]
  exact decode?_of_writtenAs hv

/-- The text that a table is written as is one of its texts. -/
theorem hasText_encode (hformat : Format.Conforms) (t : PolicyTable) :
    t.HasText t.encode.text := by
  refine ⟨t.encode, ⟨t.objects.list, t.objects.list.map fun m => (m.1, encodeObject m.2),
    .refl _, ?_, ?_⟩, ?_⟩
  · rw [List.forall₂_map_right_iff, List.forall₂_same]
    refine fun o _ => ⟨rfl, o.2.list, .refl _, ?_⟩
    exact congrArg Value.object (sortMembers_of_sorted (sorted_map o.2.sorted))
  · exact congrArg Value.object (sortMembers_of_sorted (sorted_map t.objects.sorted))
  · exact hformat.writtenAs_text (readBack_of_numbers_eq_nil t.numbers_encode)

/-- **A table is enforced alike wherever it is read from one of its texts.** -/
theorem enforced_alike [PatternEngine] (hformat : Format.Conforms)
    (hnesting : 4 ≤ Format.nesting) (t : PolicyTable) :
    t.HasText t.encode.text ∧ ∀ text, t.HasText text → ∃ t', ofJson? text = some t' ∧ t' = t ∧
      (∀ object filter sorting,
        t'.validate object filter sorting = t.validate object filter sorting) ∧
      ∀ path (q : Query) object,
        (do q.authorize (← loadPolicy path (.ok text)) object) = q.authorize t object := by
  refine ⟨hasText_encode hformat t, fun text h => ?_⟩
  have hread := ofJson?_of_hasText hformat hnesting h
  refine ⟨t, hread, rfl, fun _ _ _ => rfl, fun path q object => ?_⟩
  rw [loadPolicy, hread]
  rfl

end

section

open Reference

/-- A policy that denies an operation twice and asks for numbers. -/
def agePolicy : FieldPolicy := (FieldPolicy.deny [.gt, .lt, .gt]).withLiteralType .number

/-- A policy that forbids sorting and nothing else. -/
def sizePolicy : FieldPolicy := FieldPolicy.unrestricted.withoutSorting

/-- The two, for names that need escapes or more than ASCII. -/
def bodyPolicies : ObjectPolicy := .ofList [("\"age\"", agePolicy), ("größe", sizePolicy)]

/-- A table with an object that has policies and one that has none. -/
def sharedTable : PolicyTable := ⟨.ofList [("Team", .empty), ("User", bodyPolicies)]⟩

/-- The members of the table, everything the other way round. -/
def sharedMembers : List (String × Value) :=
  [("User", .object [("größe", sizePolicy.encode), ("\"age\"", agePolicy.encode)]),
    ("Team", .object [])]

theorem numbers_sharedMembers : (Value.object sharedMembers).numbers = [] := by
  have huser : ∀ m ∈ [("größe", sizePolicy.encode), ("\"age\"", agePolicy.encode)],
      m.2.numbers = [] :=
    List.forall_mem_cons.2 ⟨sizePolicy.numbers_encode,
      List.forall_mem_singleton.2 agePolicy.numbers_encode⟩
  exact numbers_object (List.forall_mem_cons.2 ⟨numbers_object huser,
    List.forall_mem_singleton.2 rfl⟩)

/-- The text of the members, between spaces. -/
def sharedText : String :=
  String.ofList ([' '] ++ ((Value.object sharedMembers).compact Format.numeral ++ ['\n']))

/-- The table is read from the text, so sorting is forbidden as before. -/
theorem sharedTable_enforced :
    sharedTable.HasText sharedText ∧ ∃ t, ofJson? sharedText = some t ∧ t = sharedTable ∧
      t.validate "User" none (some ⟨[⟨"größe", .ascending⟩]⟩) =
        .error (.sortingDisabled "größe") := by
  have hbody : ObjectPolicy.WrittenAs bodyPolicies
      (.object [("größe", sizePolicy.encode), ("\"age\"", agePolicy.encode)]) :=
    ⟨_, .swap _ _ _, rfl⟩
  have hteam : ObjectPolicy.WrittenAs .empty (.object []) := ⟨[], .nil, rfl⟩
  have htext : sharedTable.HasText sharedText := by
    refine ⟨_, ⟨[("User", bodyPolicies), ("Team", .empty)], sharedMembers, .swap _ _ _,
      .cons ⟨rfl, hbody⟩ (.cons ⟨rfl, hteam⟩ .nil), rfl⟩, ?_⟩
    rw [sharedText, String.toList_ofList]
    have hback := readBack_of_numbers_eq_nil numbers_sharedMembers
    exact .spaced (List.forall_mem_singleton.2 rfl)
      ((Value.object sharedMembers).writtenAs_compact format_conforms hback)
      (List.forall_mem_singleton.2 rfl)
  obtain ⟨t, hread, rfl, -, -⟩ :=
    (enforced_alike format_conforms (by decide) sharedTable).2 sharedText htext
  exact ⟨htext, _, hread, rfl, by decide⟩

end

end PolicyTable

end RecordQuery
