import GeoSchema.Proofs.Inherited
import GeoSchema.Proofs.Recall
import GeoSchema.Proofs.SchemaTypes

/-!
# Rules of types

Which type a schema of each kind has, told from the types of its parts. The same rules hold whatever was
built before, as what is remembered only stands in for a type that counts as the same.
-/

namespace GeoSchema

open ValueType

namespace TypedSchema

/-- The type follows from the parts' types by the rule for the kind of schema. -/
inductive TypedByRule : TypedSchema → Prop where
  | number : TypedByRule { schema := .primitive .number, type := .number }
  | text : TypedByRule { schema := .primitive .text, type := .text }
  | null : TypedByRule { schema := .primitive .null, type := .null false }
  | any : TypedByRule { schema := .primitive .any, type := .any }
  | literal {c c' : Constant} {mark mark' : Nat} (label : Option String)
    (h : sameConstant c' mark' c mark = true) :
    TypedByRule { schema := .literal c label, type := .literal c' mark' }
  | tuple {items : List TypedSchema} (h : ∀ t ∈ items, TypedByRule t) (label : Option String) :
    TypedByRule { schema := .tuple (schemas items) label, type := .tuple (types items) }
  | array {item : TypedSchema} (h : TypedByRule item) (nonEmpty : Bool) (label : Option String) :
    TypedByRule { schema := .array nonEmpty item.schema label, type := .list item.type }
  | dictionary {key value : TypedSchema} (hkey : TypedByRule key) (hvalue : TypedByRule value)
    (label : Option String) :
    TypedByRule
      { schema := .dictionary key.schema value.schema label, type := .dict key.type value.type }
  | object {fields : List (String × TypedSchema)} (h : ∀ f ∈ fields, TypedByRule f.2) (required : Bool)
    (label : Option String) (mark : Nat) {s : Schema}
    (hs : s = .object required (fields.map fun f => (f.1, f.2.schema)) label)
    {declared shown : List (Field ValueType)}
    (hdeclared : declared = fields.map fun f => ⟨f.1, required, f.2.type⟩)
    (hshown : Field.Shown shown declared) :
    TypedByRule { schema := s, type := typedDictOf s.name mark shown, fields := some declared }
  | union {alternatives : List TypedSchema} (h : ∀ a ∈ alternatives, TypedByRule a)
    (label : Option String) {spelled : List ValueType}
    (hspelled : sameItems spelled (types alternatives) = true) :
    TypedByRule { schema := .union (schemas alternatives) label, type := unionOf spelled }
  | merged {members : List TypedSchema} (hne : members ≠ []) (h : ∀ m ∈ members, TypedByRule m)
    (hsome : ∀ m ∈ members, m.fields.isSome) (label : Option String) (mark : Nat) {s : Schema}
    (hs : s = .intersection (schemas members) label) {declared shown : List (Field ValueType)}
    (hdeclared : declared = Field.merge [] (declaredFields members))
    (hshown : Field.Shown shown declared) :
    TypedByRule { schema := s, type := typedDictOf s.name mark shown, fields := some declared }
  | first {m : TypedSchema} {rest : List TypedSchema} (h : ∀ m' ∈ m :: rest, TypedByRule m')
    (hnone : ∃ m' ∈ m :: rest, m'.fields = none) (label : Option String) :
    TypedByRule { schema := .intersection (schemas (m :: rest)) label, type := m.type }

variable {items alternatives members : List TypedSchema} {fields : List (String × TypedSchema)}

theorem typedByRule_object (h : ∀ f ∈ fields, f.2.TypedByRule) (required : Bool) (label : Option String)
    (mark : Nat) : HandsOn Memory.Formed TypedByRule (object required fields label mark) := by
  intro memory hmemory
  obtain ⟨⟨shown, hshown, htype⟩, hafter⟩ := Memory.formed_typedDict hmemory
    (Schema.object required (fields.map fun f => (f.1, f.2.schema)) label).name mark
    (fields.map fun f => ⟨f.1, required, f.2.type⟩)
  refine ⟨?_, hafter⟩
  have hrule := TypedByRule.object h required label mark rfl rfl hshown
  rw [← htype] at hrule
  exact hrule

theorem typedByRule_union (h : ∀ a ∈ alternatives, a.TypedByRule) (label : Option String) :
    HandsOn Memory.Formed TypedByRule (union alternatives label) := by
  intro memory hmemory
  obtain ⟨⟨spelled, hspelled, htype⟩, hafter⟩ := Memory.formed_form hmemory .union (types alternatives)
  refine ⟨?_, hafter⟩
  have hrule := TypedByRule.union h label hspelled
  rw [← Former.form, ← htype] at hrule
  exact hrule

theorem typedByRule_intersection (hne : members ≠ []) (h : ∀ m ∈ members, m.TypedByRule)
    (label : Option String) (mark : Nat) :
    HandsOn Memory.Formed TypedByRule (intersection members label mark) := by
  intro memory hmemory
  unfold intersection
  rcases forall_isSome_or_exists_none members with hsome | hnone
  · obtain ⟨⟨shown, hshown, htype⟩, hafter⟩ := Memory.formed_typedDict hmemory
      (Schema.intersection (schemas members) label).name mark (Field.merge [] (declaredFields members))
    rw [mergedFields_of_isSome hsome]
    refine ⟨?_, hafter⟩
    have hrule := TypedByRule.merged hne h hsome label mark rfl rfl hshown
    rw [← htype] at hrule
    exact hrule
  · obtain ⟨first, rest, rfl⟩ := List.exists_cons_of_ne_nil hne
    rw [mergedFields_of_none hnone]
    exact ⟨.first h hnone label, hmemory⟩

theorem typedByRule_ofSchema {s : Schema} (h : s.noneEmpty = true) : (ofSchema s).TypedByRule := by
  induction s with
  | primitive p =>
    cases p with
    | number => exact .number
    | text => exact .text
    | null => exact .null
    | any => exact .any
  | literal c label => exact .literal label (sameConstant_self c 0)
  | tuple items label ih =>
    rw [Schema.noneEmpty, Schema.allNoneEmpty_iff] at h
    have hparts : ∀ t ∈ items.map ofSchema, t.TypedByRule :=
      List.forall_mem_map.mpr fun item hitem => ih item hitem (h item hitem)
    have hrule := TypedByRule.tuple hparts label
    rw [Schema.schemas_map_ofSchema, Schema.types_map_ofSchema] at hrule
    exact hrule
  | array nonEmpty item label ih =>
    rw [Schema.noneEmpty] at h
    exact .array (ih h) nonEmpty label
  | dictionary key value label ihkey ihvalue =>
    rw [Schema.noneEmpty, Bool.and_eq_true] at h
    exact .dictionary (ihkey h.1) (ihvalue h.2) label
  | object required fields label ih =>
    rw [Schema.noneEmpty, Schema.fieldsNoneEmpty_iff] at h
    have hparts : ∀ f ∈ fields.map fun f => (f.1, ofSchema f.2), f.2.TypedByRule :=
      List.forall_mem_map.mpr fun f hf => ih f hf (h f hf)
    rw [ofSchema, Schema.valueType, Schema.typedFields, Schema.typedFieldsOf_eq_map]
    refine .object hparts required label 0 ?_ ?_ (Field.shown_self _)
    · rw [List.map_map]
      exact congrArg (Schema.object required · label) (List.map_id fields).symm
    · rw [List.map_map]
      rfl
  | union alternatives label ih =>
    rw [Schema.noneEmpty, Schema.allNoneEmpty_iff] at h
    have hparts : ∀ a ∈ alternatives.map ofSchema, a.TypedByRule :=
      List.forall_mem_map.mpr fun a ha => ih a ha (h a ha)
    have hrule := TypedByRule.union hparts label (sameItems_self _)
    rw [Schema.schemas_map_ofSchema, Schema.types_map_ofSchema] at hrule
    exact hrule
  | intersection members label ih =>
    rw [Schema.noneEmpty, Bool.and_eq_true, Schema.allNoneEmpty_iff] at h
    have hne : members.map ofSchema ≠ [] := by simpa using h.1
    have hparts : ∀ m ∈ members.map ofSchema, m.TypedByRule :=
      List.forall_mem_map.mpr fun m hm => ih m hm (h.2 m hm)
    rw [ofSchema, Schema.valueType, Schema.typedFields, Schema.mergedFields_ofSchema]
    rcases forall_isSome_or_exists_none (members.map ofSchema) with hsome | hnone
    · rw [mergedFields_of_isSome hsome]
      refine .merged hne hparts hsome label 0 ?_ rfl (Field.shown_self _)
      rw [Schema.schemas_map_ofSchema]
    · rw [mergedFields_of_none hnone]
      cases members with
      | nil => exact absurd rfl hne
      | cons m rest =>
        have hrule := TypedByRule.first hparts hnone label
        rw [← List.map_cons, Schema.schemas_map_ofSchema] at hrule
        rw [Schema.valueTypes]
        exact hrule

theorem inherited_typedByRule : Inherited Memory.Formed TypedByRule where
  given := by
    have hgiven : ∀ s ∈ Grammar.given, s.noneEmpty = true := by decide
    exact fun s hs => typedByRule_ofSchema (hgiven s hs)
  literal c label mark memory hmemory := by
    obtain ⟨⟨c', mark', hsame, htype⟩, hafter⟩ := Memory.formed_literal hmemory c mark
    refine ⟨?_, hafter⟩
    have hrule := TypedByRule.literal label hsame
    rw [← htype] at hrule
    exact hrule
  tuple h label := .tuple h label
  array h nonEmpty label := .array h nonEmpty label
  dictionary hkey hvalue label := .dictionary hkey hvalue label
  object _ h := typedByRule_object h
  union _ h := typedByRule_union h
  intersection := typedByRule_intersection

end TypedSchema

/-- What is built is typed by the rules. -/
theorem Declaration.typedByRule_of_build {start : Session} (hstart : start.scope = {}) (steps : List Step)
    {d : Declaration} {t : TypedSchema} {after : Scope}
    (hbuild : d.build (start.afterSteps steps).scope = .ok (t, after)) : t.TypedByRule :=
  TypedSchema.inherited_typedByRule.of_build ⟨by simp, by simp⟩ hstart steps hbuild

end GeoSchema
