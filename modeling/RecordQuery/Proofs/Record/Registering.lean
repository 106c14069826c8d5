import Mathlib.Data.List.GetD
import RecordQuery.Proofs.Record.Declarations
import RecordQuery.Proofs.Record.Documents
import RecordQuery.Record.Registry
import RecordQuery.Reference.Engine
/-!
# Registries and the types they keep the fields of

What a registry keeps of a type is what the type has declared at some time
(`Registry.BuiltBy`): the sets that are needed along a path are those of the entities that
the path walks through. If a type declares the same fields each time, it makes no
difference to it which types have been registered or evaluated before, whatever these
declare and even if they go by the same name. Registering it fails with the first tag that
it repeats (`fieldSet_settled`).
-/

namespace RecordQuery

/-- What types may declare. -/
abbrev Declares := RecordType → List (String × String) → Prop

variable {declares : Declares} {type : RecordType} {declarations : List (String × String)}
variable {s : FieldSet} {r inner : Record} {v : FieldValue} {name : String} {g : Registry}

/-! ## Sets of types -/

/-- Whether a set is one that its type may declare. -/
def FieldSet.BuiltBy (declares : Declares) (s : FieldSet) : Prop :=
  ∃ declarations, declares s.type declarations ∧ s = build s.type declarations

/-- Whether all entities in a record have sets that their types may declare. -/
inductive Record.BuiltBy (declares : Declares) : Record → Prop
  | document (value : Json.Value) : BuiltBy declares (.document value)
  | entity {fields : FieldSet} {values : List FieldValue} (hfields : fields.BuiltBy declares)
      (hvalues : ∀ v ∈ values, ∀ name inner, v.enter name = .ok inner → BuiltBy declares inner) :
      BuiltBy declares (.entity fields values)

/-- Whether a registry keeps sets that types may declare. -/
def Registry.BuiltBy (declares : Declares) (g : Registry) : Prop :=
  ∀ s ∈ g.sets, s.BuiltBy declares

/-- The registries that come about by reading and registering types and by evaluating
filters, in any order. -/
inductive Registry.Reachable [PatternEngine] (declares : Declares) : Registry → Prop
  | empty : Reachable declares .empty
  | fields {g : Registry} {type : RecordType} {declarations : List (String × String)}
      (h : Reachable declares g) (hdeclares : declares type declarations) :
      Reachable declares (g.fields (.build type declarations)).2
  | register {g : Registry} {type : RecordType} {declarations : List (String × String)}
      (h : Reachable declares g) (hdeclares : declares type declarations) :
      Reachable declares (g.register (.build type declarations)).2
  | evaluate {g : Registry} (h : Reachable declares g) (filter : Option Filter) {r : Record}
      (hr : r.BuiltBy declares) : Reachable declares (g.evaluate filter r).2

theorem FieldSet.builtBy_build (h : declares type declarations) :
    (build type declarations).BuiltBy declares := by
  refine ⟨declarations, ?_, ?_⟩ <;> rw [type_build]
  exact h

/-! ## Sets that an evaluation needs -/

namespace Record

theorem BuiltBy.declared (h : r.BuiltBy declares) (hs : s ∈ r.declared) :
    s.BuiltBy declares := by
  cases h with
  | document value => cases hs
  | entity hfields _ => rwa [List.mem_singleton.1 hs]

/-- One step along a path leads to records of the same kind. -/
theorem BuiltBy.enter (h : r.BuiltBy declares) (hv : r.field? name = some v)
    (hinner : v.enter name = .ok inner) : inner.BuiltBy declares := by
  cases h with
  | document value =>
    have hsegment : (Record.document value).segment name = .ok v := by rw [segment, hv]
    obtain ⟨w, rfl⟩ := exists_toField_of_segment hsegment
    obtain ⟨document, rfl⟩ := Json.Value.exists_document_of_enter hinner
    exact .document document
  | @entity fields values _ hvalues =>
    obtain ⟨f, -, rfl⟩ := Option.map_eq_some_iff.1 hv
    rcases Nat.lt_or_ge f.number values.length with hlt | hge
    · rw [List.getD_eq_getElem _ _ hlt] at hinner
      exact hvalues _ (List.getElem_mem hlt) name inner hinner
    · -- a field without a value is null, and there is no way into it
      rw [List.getD_eq_default _ _ hge] at hinner
      cases hinner

/-- **Along a path, only sets of types are needed.** -/
theorem BuiltBy.needed {path : List String} (h : r.BuiltBy declares) :
    ∀ s ∈ r.needed path, s.BuiltBy declares := by
  induction path generalizing r with
  | nil => exact List.forall_mem_nil _
  | cons segment rest ih =>
    rw [Record.needed]
    refine List.forall_mem_append.2 ⟨fun s hs => h.declared hs, ?_⟩
    split
    · next v hv =>
      split
      · next inner hinner => exact ih (h.enter hv hinner)
      · exact List.forall_mem_nil _
    · exact List.forall_mem_nil _

end Record

theorem neededBy_builtBy [PatternEngine] {patterns : Patterns} {conditions : List Condition}
    (h : r.BuiltBy declares) : ∀ s ∈ neededBy patterns r conditions, s.BuiltBy declares := by
  induction conditions with
  | nil => exact List.forall_mem_nil _
  | cons c rest ih =>
    rw [neededBy]
    refine List.forall_mem_append.2 ⟨h.needed, ?_⟩
    split
    · exact ih
    · exact List.forall_mem_nil _

theorem Filter.needed_builtBy [PatternEngine] {f : Filter} (h : r.BuiltBy declares) :
    ∀ s ∈ f.needed r, s.BuiltBy declares := by
  rw [Filter.needed]
  split
  · exact neededBy_builtBy h
  · exact List.forall_mem_nil _

/-! ## Registries -/

namespace Registry

theorem builtBy_empty : empty.BuiltBy declares := List.forall_mem_nil _

/-- **A registry keeps sets of types** if they are all that is added to it. -/
theorem BuiltBy.keep (h : g.BuiltBy declares) (hs : s.BuiltBy declares) :
    (g.keep s).BuiltBy declares := by
  rw [Registry.keep]
  split
  · exact h
  · exact List.forall_mem_append.2 ⟨h, List.forall_mem_singleton.2 hs⟩

theorem BuiltBy.foldl_keep {sets : List FieldSet} (h : g.BuiltBy declares)
    (hsets : ∀ s ∈ sets, s.BuiltBy declares) :
    (sets.foldl Registry.keep g).BuiltBy declares := by
  induction sets generalizing g with
  | nil => exact h
  | cons s rest ih =>
    obtain ⟨hs, hrest⟩ := List.forall_mem_cons.1 hsets
    exact ih (h.keep hs) hrest

theorem register_snd (g : Registry) (s : FieldSet) : (g.register s).2 = g.keep s := by
  rw [register]
  dsimp only [fields]
  split <;> rfl

theorem Reachable.builtBy [PatternEngine] (h : Reachable declares g) : g.BuiltBy declares := by
  induction h with
  | empty => exact builtBy_empty
  | fields _ hdeclares ih => exact ih.keep (FieldSet.builtBy_build hdeclares)
  | register _ hdeclares ih =>
    rw [register_snd]
    exact ih.keep (FieldSet.builtBy_build hdeclares)
  | evaluate _ filter hr ih =>
    refine ih.foldl_keep ?_
    cases filter with
    | none => exact List.forall_mem_nil _
    | some f => exact f.needed_builtBy hr

/-- **What has been kept of a type is what it declares**, if it declares the same each
time. -/
theorem BuiltBy.current (h : g.BuiltBy declares)
    (honce : ∀ others, declares type others → others = declarations) :
    g.current (.build type declarations) = .build type declarations := by
  rw [Registry.current, FieldSet.type_build]
  cases hfind : g.find? type with
  | none => rfl
  | some kept =>
    obtain ⟨others, hothers, hkept⟩ := h kept (List.mem_of_find?_eq_some hfind)
    have htype : kept.type = type := by simpa using List.find?_some hfind
    rw [htype] at hothers hkept
    rw [Option.getD_some, hkept, honce others hothers]

/-- The outcome of registering is settled by the duplicates of the set that is kept. -/
theorem register_fst (hcurrent : g.current s = s) : (g.register s).1 =
    s.duplicates.head?.elim (.ok s) fun tag => .error ⟨s.type.name, tag⟩ := by
  rw [register]
  dsimp only [fields]
  rw [hcurrent]
  cases s.duplicates <;> rfl

theorem register_eq_ok_iff (hcurrent : g.current s = s) :
    (g.register s).1 = .ok s ↔ s.duplicates = [] := by
  rw [register_fst hcurrent]
  cases s.duplicates <;> simp

theorem exists_register_eq_error_iff (hcurrent : g.current s = s) :
    (∃ e, (g.register s).1 = .error e) ↔ (g.register s).1 ≠ .ok s := by
  rw [register_fst hcurrent]
  cases s.duplicates <;> simp

theorem register_eq_error_iff {e : DuplicateField} (hcurrent : g.current s = s) :
    (g.register s).1 = .error e ↔ e.typeName = s.type.name ∧ s.duplicates.head? = some e.field := by
  obtain ⟨typeName, field⟩ := e
  rw [register_fst hcurrent]
  cases s.duplicates <;> simp [eq_comm]

end Registry

/-! ## Declarations and registering -/

/-- A set without duplicates is one whose tags all differ. -/
theorem FieldSet.Holds.duplicates_eq_nil_iff {fs : List Field} (h : s.Holds fs)
    (hnodup : fs.Nodup) : s.duplicates = [] ↔ (fs.map Field.name).Nodup := by
  rw [h.duplicates_eq, List.map_eq_nil_iff, Field.repeats_eq_nil_iff hnodup]

/-- The first duplicate is the first tag that comes again. -/
theorem FieldSet.Holds.head?_duplicates {fs : List Field} {tag : String} (h : s.Holds fs)
    (hnodup : fs.Nodup) : s.duplicates.head? = some tag ↔ Field.FirstRepeated fs tag := by
  rw [h.duplicates_eq, List.head?_map, Field.firstRepeated_iff hnodup]

/-- **What declarations come to.** A set keeps the first fields of all tags and the tags of
the other ones, in the order of their declaration. Its indices lead to fields. A name
stands for the field of this very tag, or else for the earliest one that is kept and whose
member differs from it at most in letter case. Whatever has been registered or evaluated
before, registering the type fails if a tag is declared twice, and then with the first tag
that comes again. -/
theorem fieldSet_settled [PatternEngine] (type : RecordType)
    (declarations : List (String × String)) :
    let declared := Field.numbered 0 declarations
    let s := FieldSet.build type declarations
    (s.fields = Field.firsts declared ∧
      s.duplicates = (Field.repeats declared).map Field.name ∧
      s.names.Nodup ∧ s.size + s.duplicates.length = declarations.length) ∧
    (∀ entry ∈ s.byName ++ s.byMember, entry.2 < s.size) ∧
    (∀ name, s.lookup name = (declared.find? (·.name == name)).or
      (s.fields.find? fun f => sameUpToCase f.member name)) ∧
    ∀ (declares : Declares) g, Registry.Reachable declares g →
      (∀ others, declares type others → others = declarations) →
      ((g.register s).1 = .ok s ↔ (declarations.map Prod.fst).Nodup) ∧
      ((∃ e, (g.register s).1 = .error e) ↔ ¬ (declarations.map Prod.fst).Nodup) ∧
      ∀ e, (g.register s).1 = .error e ↔
        e.typeName = type.name ∧ Field.FirstRepeated declared e.field := by
  intro declared s
  have hs : s.Holds declared := FieldSet.holds_build type declarations
  have hnodup : declared.Nodup := Field.nodup_numbered
  refine ⟨⟨hs.fields_eq, hs.duplicates_eq, ?_, ?_⟩, ?_, hs.lookup_eq, ?_⟩
  · rw [FieldSet.names, hs.fields_eq]
    exact Field.nodup_names_firsts hnodup
  · rw [FieldSet.size, hs.fields_eq, hs.duplicates_eq, List.length_map,
      Field.length_firsts_add_length_repeats, Field.length_numbered]
  · exact List.forall_mem_append.2 ⟨hs.byName.inRange, hs.byMember.inRange⟩
  · intro declares g hg honce
    have hcurrent : g.current s = s := hg.builtBy.current honce
    have htype : s.type = type := FieldSet.type_build
    have hok : (g.register s).1 = .ok s ↔ (declarations.map Prod.fst).Nodup := by
      rw [Registry.register_eq_ok_iff hcurrent, hs.duplicates_eq_nil_iff hnodup,
        Field.names_numbered]
    refine ⟨hok, ?_, fun e => ?_⟩
    · rw [← hok]
      exact Registry.exists_register_eq_error_iff hcurrent
    · rw [Registry.register_eq_error_iff hcurrent, htype, hs.head?_duplicates hnodup]

section

open Reference

/-- A type whose records are items. -/
def itemType : RecordType := ⟨0, "Item"⟩

/-- Another type with the same name. -/
def otherItemType : RecordType := ⟨1, "Item"⟩

/-- A tag that comes again, and a member that is another tag in other letters. -/
def itemDeclarations : List (String × String) := [("a", "x"), ("b", "A"), ("a", "y")]

/-- Items always declare their fields. The other types declare any. -/
def itemDeclares : Declares := fun type declarations =>
  type = itemType → declarations = itemDeclarations

/-- A registry that has read the other type, which declares no field, and evaluated a filter
on an item. -/
def usedRegistry : Registry :=
  ((Registry.empty.fields (.build otherItemType [])).2.evaluate
    (some (.condition ⟨["A"], .isNull, false⟩)) (.entity (.build itemType itemDeclarations) [])).2

/-- Items are refused all the same, and their fields are found. -/
theorem itemDeclarations_refused :
    Registry.Reachable itemDeclares usedRegistry ∧
      (∀ others, itemDeclares itemType others → others = itemDeclarations) ∧
      (usedRegistry.register (.build itemType itemDeclarations)).1 = .error ⟨"Item", "a"⟩ ∧
      (FieldSet.build itemType itemDeclarations).lookup "A" = some ⟨"b", "A", 1⟩ := by
  obtain ⟨-, -, hlookup, hregister⟩ := fieldSet_settled itemType itemDeclarations
  have honce : ∀ others, itemDeclares itemType others → others = itemDeclarations :=
    fun others h => h rfl
  have hother : itemDeclares otherItemType [] := fun h => absurd h (by decide)
  have hitem : itemDeclares itemType itemDeclarations := fun _ => rfl
  have hreachable : Registry.Reachable itemDeclares usedRegistry :=
    .evaluate (.fields .empty hother) _
      (.entity (FieldSet.builtBy_build hitem) (List.forall_mem_nil _))
  obtain ⟨-, -, herror⟩ := hregister _ _ hreachable honce
  refine ⟨hreachable, honce, (herror _).2 ⟨rfl, ?_⟩, (hlookup "A").trans rfl⟩
  exact ⟨[⟨"a", "x", 0⟩, ⟨"b", "A", 1⟩], ⟨"a", "y", 2⟩, [], rfl, by decide, by decide, rfl⟩

end

end RecordQuery
