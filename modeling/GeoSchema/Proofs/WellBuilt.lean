import GeoSchema.Proofs.Inherited
import GeoSchema.Proofs.Leaves

/-!
# What building sees to

Building refuses a union or an intersection of nothing, and of a repeated key it keeps one field. So
whatever was built and defined before, no schema in use has such a part.
-/

namespace GeoSchema

namespace Schema

/-- Something to choose from or to satisfy, and no key with two fields. -/
def wellBuilt : Schema → Bool
  | .object _ fields _ => decide (fields.map (·.1)).Nodup
  | .union alternatives _ => !alternatives.isEmpty
  | .intersection members _ => !members.isEmpty
  | _ => true

theorem hasAlternatives_of_wellBuilt (s : Schema) (h : s.wellBuilt = true) :
    s.hasAlternatives = true := by
  unfold hasAlternatives
  split
  · cases h
  · rfl

end Schema

/-! ## Declarations -/

namespace TypedSchema

open Schema

def WellBuilt (t : TypedSchema) : Prop := t.schema.throughout wellBuilt = true

variable {members : List TypedSchema} {fields : List (String × TypedSchema)}

theorem wellBuilt_of_parts {t : TypedSchema} (hs : t.schema.wellBuilt = true)
    (h : ∀ part ∈ t.schema.parts, part.throughout wellBuilt = true) : t.WellBuilt :=
  throughout_iff.mpr ⟨hs, h⟩

theorem forall_mem_schemas (h : ∀ m ∈ members, m.WellBuilt) :
    ∀ s ∈ schemas members, s.throughout wellBuilt = true :=
  List.forall_mem_map.mpr h

theorem isEmpty_schemas (hne : members ≠ []) : (!(schemas members).isEmpty) = true := by
  rw [schemas, List.isEmpty_map]
  simpa using hne

theorem wellBuilt_object (hkeys : (fields.map (·.1)).Nodup) (h : ∀ f ∈ fields, f.2.WellBuilt)
    (required : Bool) (label : Option String) (mark : Nat) (memory : Memory) :
    (object required fields label mark memory).1.WellBuilt := by
  unfold object
  apply wellBuilt_of_parts
  · simp only [wellBuilt, List.map_map, decide_eq_true_eq]
    exact hkeys
  · simp only [parts, List.map_map, List.forall_mem_map]
    exact h

theorem wellBuilt_union (hne : members ≠ []) (h : ∀ m ∈ members, m.WellBuilt) (label : Option String)
    (memory : Memory) : (union members label memory).1.WellBuilt :=
  wellBuilt_of_parts (isEmpty_schemas hne) (forall_mem_schemas h)

theorem wellBuilt_intersection (hne : members ≠ []) (h : ∀ m ∈ members, m.WellBuilt)
    (label : Option String) (mark : Nat) (memory : Memory) :
    (intersection members label mark memory).1.WellBuilt := by
  apply wellBuilt_of_parts <;> rw [intersection_schema]
  · exact isEmpty_schemas hne
  · exact forall_mem_schemas h

theorem inherited_wellBuilt : Inherited AnyMemory WellBuilt where
  given := by
    have hgiven : ∀ s ∈ Grammar.given, s.throughout wellBuilt = true := by decide
    exact hgiven
  literal _ _ _ := handsOn_of_forall fun _ => rfl
  tuple h _ := wellBuilt_of_parts rfl (forall_mem_schemas h)
  array h _ _ := wellBuilt_of_parts rfl (List.forall_mem_singleton.mpr h)
  dictionary hkey hvalue _ := wellBuilt_of_parts rfl
    (List.forall_mem_cons.mpr ⟨hkey, List.forall_mem_singleton.mpr hvalue⟩)
  object hkeys h required label mark := handsOn_of_forall (wellBuilt_object hkeys h required label mark)
  union hne h label := handsOn_of_forall (wellBuilt_union hne h label)
  intersection hne h label mark := handsOn_of_forall (wellBuilt_intersection hne h label mark)

end TypedSchema

namespace Declaration

variable {start : Session} {d : Declaration} {t : TypedSchema} {after : Scope}

theorem wellBuilt_of_build (hstart : start.scope = {}) (steps : List Step)
    (hbuild : d.build (start.afterSteps steps).scope = .ok (t, after)) : t.WellBuilt :=
  TypedSchema.inherited_wellBuilt.of_build trivial hstart steps hbuild

theorem unionsNonEmpty_of_build (hstart : start.scope = {}) (steps : List Step)
    (hbuild : d.build (start.afterSteps steps).scope = .ok (t, after)) :
    t.schema.unionsNonEmpty = true :=
  Schema.throughout_mono Schema.hasAlternatives_of_wellBuilt _ (wellBuilt_of_build hstart steps hbuild)

end Declaration

end GeoSchema
