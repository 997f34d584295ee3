import GeoSchema.Proofs.Fields

/-!
# Types of schemas by themselves

The type that a schema has by itself, as the schemas of the grammar do, is made of the types that its
parts have by themselves.
-/

namespace GeoSchema

namespace Schema

mutual

/-- An empty intersection accepts everything. -/
def noneEmpty : Schema → Bool
  | .primitive _ => true
  | .literal _ _ => true
  | .tuple items _ => allNoneEmpty items
  | .array _ item _ => noneEmpty item
  | .dictionary key value _ => noneEmpty key && noneEmpty value
  | .object _ fields _ => fieldsNoneEmpty fields
  | .union alternatives _ => allNoneEmpty alternatives
  | .intersection members _ => !members.isEmpty && allNoneEmpty members

def allNoneEmpty : List Schema → Bool
  | [] => true
  | s :: rest => noneEmpty s && allNoneEmpty rest

def fieldsNoneEmpty : List (String × Schema) → Bool
  | [] => true
  | (_, s) :: rest => noneEmpty s && fieldsNoneEmpty rest

end

theorem allNoneEmpty_iff {schemas : List Schema} :
    allNoneEmpty schemas = true ↔ ∀ s ∈ schemas, s.noneEmpty = true := by
  induction schemas with
  | nil => simp [allNoneEmpty]
  | cons s rest ih => rw [allNoneEmpty, Bool.and_eq_true, ih, List.forall_mem_cons]

theorem fieldsNoneEmpty_iff {fields : List (String × Schema)} :
    fieldsNoneEmpty fields = true ↔ ∀ f ∈ fields, f.2.noneEmpty = true := by
  induction fields with
  | nil => simp [fieldsNoneEmpty]
  | cons f rest ih => rw [fieldsNoneEmpty, Bool.and_eq_true, ih, List.forall_mem_cons]

theorem valueTypes_eq_map (schemas : List Schema) : valueTypes schemas = schemas.map valueType := by
  induction schemas with
  | nil => rfl
  | cons s rest ih => rw [valueTypes, ih, List.map_cons]

theorem typedFieldsOf_eq_map (required : Bool) (fields : List (String × Schema)) :
    typedFieldsOf required fields = fields.map fun f => ⟨f.1, required, valueType f.2⟩ := by
  induction fields with
  | nil => rfl
  | cons f rest ih => rw [typedFieldsOf, ih, List.map_cons]

theorem mergedFields_ofSchema (gathered : List (Field ValueType)) (members : List Schema) :
    mergedFields gathered members =
      TypedSchema.mergedFields gathered (members.map TypedSchema.ofSchema) := by
  induction members generalizing gathered with
  | nil => rfl
  | cons m rest ih =>
    rw [mergedFields, List.map_cons, TypedSchema.mergedFields, TypedSchema.ofSchema]
    cases typedFields m with
    | none => rfl
    | some fields => exact ih _

open TypedSchema

theorem schemas_map_ofSchema (members : List Schema) :
    TypedSchema.schemas (members.map ofSchema) = members := by
  unfold TypedSchema.schemas
  rw [List.map_map]
  exact List.map_id members

theorem types_map_ofSchema (members : List Schema) :
    TypedSchema.types (members.map ofSchema) = valueTypes members := by
  unfold TypedSchema.types
  rw [valueTypes_eq_map, List.map_map]
  rfl

end Schema

end GeoSchema
