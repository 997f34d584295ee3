import GeoSchema.Proofs.Intersections
import GeoSchema.Proofs.TypeRules

/-!
# What types describe

A type that follows the rules describes the values that the type of the schema by itself describes. So
the values of a type are told by the schema, whatever else was built before it.
-/

namespace GeoSchema

open ValueType

namespace ValueType

def inhabitants (a : ValueType) (v : Value) : Prop := v.Inhabits a

variable {as bs : List ValueType} {v : Value}

theorem inhabitants_tuple (h : as.map inhabitants = bs.map inhabitants) :
    (tuple as).inhabitants = (tuple bs).inhabitants := by
  have hparts : List.Forall₂ (fun a b => ∀ e : Value, e.Inhabits a ↔ e.Inhabits b) as bs := by
    rw [← List.forall₂_eq_eq_eq, List.forall₂_map_left_iff, List.forall₂_map_right_iff] at h
    exact h.imp fun a b hab e => iff_of_eq (congrFun hab e)
  funext v
  rw [inhabitants, inhabitants, Value.Inhabits, Value.Inhabits, hparts.length_eq]
  simp only [forall_mem_zip_congr hparts]

theorem exists_inhabits_congr (h : as.map inhabitants = bs.map inhabitants) :
    (∃ a ∈ as, v.Inhabits a) ↔ ∃ b ∈ bs, v.Inhabits b := by
  have hmap (types : List ValueType) :
      (∃ a ∈ types, v.Inhabits a) ↔ ∃ P ∈ types.map inhabitants, P v := by
    simp only [List.mem_map, exists_exists_and_eq_and]
    rfl
  rw [hmap as, hmap bs, h]

end ValueType

theorem Value.fits_congr {fields fields' : List (Field ValueType)} {v : Value}
    (h : fields.map (Field.map inhabitants) = fields'.map (Field.map inhabitants)) :
    v.Fits fields ↔ v.Fits fields' := by
  have hmap (fields : List (Field ValueType)) : (∀ f ∈ fields, v.FitsField f) ↔
      ∀ f ∈ fields.map (Field.map inhabitants), (f.required = true → ∃ w, v.member? f.key = some w) ∧
        ∀ w, v.member? f.key = some w → f.content w := by
    rw [List.forall_mem_map]
    rfl
  rw [Value.Fits, Value.Fits, hmap fields, hmap fields', h]

theorem Schema.valueType_of_typedFields {s : Schema} {fields : List (Field ValueType)}
    (h : s.typedFields = some fields) : s.valueType = typedDictOf s.name 0 fields := by
  cases s with
  | object required declared label =>
    cases h
    rfl
  | intersection members label =>
    rw [typedFields] at h
    rw [valueType, h]
  | _ => cases h

namespace TypedSchema

/-- Type and fields describe what those of the schema by itself do. -/
structure DescribedAlone (t : TypedSchema) : Prop where
  type : t.type.inhabitants = t.schema.valueType.inhabitants
  fields : t.fields.map (List.map (Field.map inhabitants)) =
    t.schema.properties.map (List.map (Field.map fun s => s.valueType.inhabitants))

theorem describedAlone_of_fields {s : Schema} {mark : Nat} {declared shown : List (Field ValueType)}
    (hshown : Field.Shown shown declared)
    (h : some (declared.map (Field.map inhabitants)) =
      s.properties.map (List.map (Field.map fun s => s.valueType.inhabitants))) :
    DescribedAlone { schema := s, type := typedDictOf s.name mark shown, fields := some declared } := by
  refine ⟨?_, h⟩
  obtain ⟨properties, hproperties, hfields⟩ := Option.map_eq_some_iff.mp h.symm
  have htyped : s.typedFields = some (properties.map (.map Schema.valueType)) := by
    rw [Schema.typedFields_eq_map, hproperties, Option.map_some]
  funext v
  rw [Schema.valueType_of_typedFields htyped, inhabitants, inhabitants, inhabits_typedDictOf,
    inhabits_typedDictOf, Value.fits_iff_of_shown hshown]
  refine propext (Value.fits_congr ?_)
  rw [← hfields, List.map_map]
  rfl

theorem map_inhabitants_types {parts : List TypedSchema} (h : ∀ t ∈ parts, t.DescribedAlone) :
    (types parts).map inhabitants = (Schema.valueTypes (schemas parts)).map inhabitants := by
  rw [Schema.valueTypes_eq_map, types, schemas, List.map_map, List.map_map, List.map_map]
  exact List.map_congr_left fun t ht => (h t ht).type

theorem map_inhabitants_mergedFields {members : List TypedSchema} (h : ∀ m ∈ members, m.DescribedAlone)
    (typed : List (Field ValueType)) (gathered : List (Field Schema))
    (hsame : typed.map (Field.map inhabitants) =
      gathered.map (Field.map fun s => s.valueType.inhabitants)) :
    (mergedFields typed members).map (List.map (Field.map inhabitants)) =
      (Schema.mergedProperties gathered (schemas members)).map
        (List.map (Field.map fun s => s.valueType.inhabitants)) := by
  induction members generalizing typed gathered with
  | nil => exact congrArg some hsame
  | cons m rest ih =>
    obtain ⟨⟨_, hm⟩, hrest⟩ := List.forall_mem_cons.mp h
    rw [schemas, List.map_cons, ← schemas, mergedFields, Schema.mergedProperties]
    cases hproperties : m.schema.properties with
    | none =>
      rw [hproperties, Option.map_none, Option.map_eq_none_iff] at hm
      rw [hm]
      rfl
    | some declared =>
      rw [hproperties, Option.map_some, Option.map_eq_some_iff] at hm
      obtain ⟨shown, hshown, hfields⟩ := hm
      rw [hshown]
      refine ih hrest _ _ ?_
      rw [← Field.merge_map, ← Field.merge_map, hsame, hfields]

theorem TypedByRule.describedAlone {t : TypedSchema} (h : t.TypedByRule) : t.DescribedAlone := by
  induction h with
  | number => exact ⟨rfl, rfl⟩
  | text => exact ⟨rfl, rfl⟩
  | null => exact ⟨rfl, rfl⟩
  | any => exact ⟨rfl, rfl⟩
  | literal label h =>
    refine ⟨?_, rfl⟩
    funext v
    rw [inhabitants, inhabitants, Schema.valueType, Value.Inhabits, Value.Inhabits]
    exact propext (strictlyEquals_iff_of_sameConstant h v)
  | tuple _ label ih =>
    refine ⟨?_, rfl⟩
    rw [Schema.valueType]
    exact inhabitants_tuple (map_inhabitants_types ih)
  | array _ nonEmpty label ih =>
    refine ⟨?_, rfl⟩
    funext v
    have hitem (e : Value) := congrFun ih.type e
    simp only [inhabitants] at hitem
    rw [inhabitants, inhabitants, Schema.valueType, Value.Inhabits, Value.Inhabits]
    simp only [hitem]
  | dictionary _ _ label ihkey ihvalue =>
    refine ⟨?_, rfl⟩
    funext v
    have hkey (e : Value) := congrFun ihkey.type e
    have hvalue (e : Value) := congrFun ihvalue.type e
    simp only [inhabitants] at hkey hvalue
    rw [inhabitants, inhabitants, Schema.valueType, Value.Inhabits, Value.Inhabits]
    simp only [hkey, hvalue]
  | object _ required label mark hs hdeclared hshown ih =>
    refine describedAlone_of_fields hshown ?_
    subst hs hdeclared
    rw [Schema.properties, Option.map_some, List.map_map, List.map_map, List.map_map]
    refine congrArg some (List.map_congr_left fun f hf => ?_)
    exact congrArg (Field.mk f.1 required) (ih f hf).type
  | union _ label hspelled ih =>
    refine ⟨?_, rfl⟩
    funext v
    rw [inhabitants, inhabitants, Schema.valueType, inhabits_unionOf, inhabits_unionOf,
      exists_inhabits_iff_of_sameItems hspelled, exists_inhabits_congr (map_inhabitants_types ih)]
  | merged _ _ hsome label mark hs hdeclared hshown ih =>
    refine describedAlone_of_fields hshown ?_
    subst hs hdeclared
    rw [Schema.properties, ← map_inhabitants_mergedFields ih [] [] rfl, mergedFields_of_isSome hsome, Option.map_some]
  | @first m rest _ hnone label ih =>
    have hproperties : (Schema.intersection (schemas (m :: rest)) label).properties = none := by
      have hmerged := map_inhabitants_mergedFields ih [] [] rfl
      rw [mergedFields_of_none hnone, Option.map_none] at hmerged
      rw [Schema.properties]
      exact Option.map_eq_none_iff.mp hmerged.symm
    refine ⟨?_, by rw [hproperties]; rfl⟩
    have htyped := Schema.typedFields_eq_map (.intersection (schemas (m :: rest)) label)
    rw [hproperties, Option.map_none, Schema.typedFields] at htyped
    rw [Schema.valueType, htyped]
    exact (ih m List.mem_cons_self).type

end TypedSchema

/-- What a built type describes depends on the schema alone. -/
theorem Declaration.inhabits_iff_of_build {start : Session} (hstart : start.scope = {}) (steps : List Step)
    {d : Declaration} {t : TypedSchema} {after : Scope}
    (hbuild : d.build (start.afterSteps steps).scope = .ok (t, after)) (v : Value) :
    v.Inhabits t.type ↔ v.Inhabits t.schema.valueType :=
  iff_of_eq (congrFun (typedByRule_of_build hstart steps hbuild).describedAlone.type v)

end GeoSchema
