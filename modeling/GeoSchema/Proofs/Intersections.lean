import GeoSchema.Proofs.Fields
import GeoSchema.Proofs.Opening
import GeoSchema.Proofs.SchemaTypes

/-!
# Nested intersections

An intersection whose members are intersections reports what the intersection of all their members
does, and has the same fields. The stop of an inner loop is seen by the outer loop exactly where the
loop over all members would stop.
-/

namespace GeoSchema

/-! ## A loop in a loop -/

section

variable {α β : Type} {stop : List Issue → Bool} {issuesOf : α → List Issue}

theorem gatherUntil_singleton (part : α) : gatherUntil stop issuesOf [part] = issuesOf part := by
  unfold gatherUntil gatherUntil
  simp

variable (hnil : stop [] = false) (hstop : ∀ found more, stop (found ++ more) = (stop found || stop more))

include hnil hstop in
theorem gatherUntil_append (parts more : List α) :
    gatherUntil stop issuesOf (parts ++ more) =
      if stop (gatherUntil stop issuesOf parts) then gatherUntil stop issuesOf parts
      else gatherUntil stop issuesOf parts ++ gatherUntil stop issuesOf more := by
  induction parts with
  | nil => simp [gatherUntil, hnil]
  | cons part rest ih =>
    rw [List.cons_append, gatherUntil, gatherUntil, ih]
    cases hpart : stop (issuesOf part) with
    | true => simp [hpart]
    | false =>
      -- The part does not stop the loop, so that what comes after it does or nothing does.
      simp only [Bool.false_eq_true, if_false, hstop, hpart, Bool.false_or]
      split <;> simp

include hnil hstop in
/-- Loops of loops with one stop rule are one loop. -/
theorem gatherUntil_flatMap {issuesOf' : β → List Issue} {opened : α → List β} {parts : List α}
    (hparts : ∀ part ∈ parts, issuesOf part = gatherUntil stop issuesOf' (opened part)) :
    gatherUntil stop issuesOf parts = gatherUntil stop issuesOf' (parts.flatMap opened) := by
  induction parts with
  | nil => rfl
  | cons part rest ih =>
    obtain ⟨hpart, hrest⟩ := List.forall_mem_cons.mp hparts
    rw [List.flatMap_cons, gatherUntil_append hnil hstop, gatherUntil, ih hrest, hpart]

end

namespace Schema

/-! ## Issues -/

theorem wrongShapeAt_append (path : Path) (found more : List Issue) :
    wrongShapeAt path (found ++ more) = (wrongShapeAt path found || wrongShapeAt path more) := by
  unfold wrongShapeAt
  rw [List.any_append]

theorem stopsMembers_append (path : Path) (failFast : Bool) (found more : List Issue) :
    stopsMembers path failFast (found ++ more) =
      (stopsMembers path failFast found || stopsMembers path failFast more) := by
  unfold stopsMembers stopsEarly
  rw [wrongShapeAt_append]
  cases found <;> cases more <;> cases failFast <;> simp

theorem check_eq_gatherUntil_opened (s : Schema) (v : Value) (path : Path) (failFast : Bool) :
    s.check v path failFast =
      gatherUntil (stopsMembers path failFast) (fun m => check m v path failFast)
        (s.opened .intersection) := by
  induction s using inductionOnOperands .intersection with
  | single s hs => rw [opened_of_not_joins hs, gatherUntil_singleton]
  | join members label ih =>
    rw [opened_join, Connective.join, check_intersection]
    exact gatherUntil_flatMap (stopsMembers_nil path failFast) (stopsMembers_append path failFast) ih

/-! ## Fields -/

theorem mergedProperties_append (gathered : List (Field Schema)) (members more : List Schema) :
    mergedProperties gathered (members ++ more) =
      (mergedProperties gathered members).bind fun fields => mergedProperties fields more := by
  induction members generalizing gathered with
  | nil => rfl
  | cons m rest ih =>
    rw [List.cons_append, mergedProperties, mergedProperties]
    cases properties m with
    | none => rfl
    | some fields => exact ih _

theorem mergedProperties_eq_map (gathered : List (Field Schema)) (members : List Schema) :
    mergedProperties gathered members = (mergedProperties [] members).map (Field.merge gathered) := by
  induction members generalizing gathered with
  | nil => rfl
  | cons m rest ih =>
    rw [mergedProperties, mergedProperties]
    cases properties m with
    | none => rfl
    | some fields =>
      simp only
      rw [ih (Field.merge gathered fields), ih (Field.merge [] fields), Option.map_map]
      congr 1
      funext later
      rw [Function.comp_apply, ← Field.merge_append, ← Field.merge_append, Field.merge_merge]

theorem mergedProperties_singleton (s : Schema) (gathered : List (Field Schema)) :
    mergedProperties gathered [s] = s.properties.map (Field.merge gathered) := by
  rw [mergedProperties]
  cases properties s <;> rfl

theorem mergedProperties_flatMap {gathered : List (Field Schema)} {members : List Schema}
    {opened : Schema → List Schema}
    (h : ∀ m ∈ members, ∀ gathered,
      mergedProperties gathered (opened m) = m.properties.map (Field.merge gathered)) :
    mergedProperties gathered (members.flatMap opened) = mergedProperties gathered members := by
  induction members generalizing gathered with
  | nil => rfl
  | cons m rest ih =>
    obtain ⟨hm, hrest⟩ := List.forall_mem_cons.mp h
    rw [List.flatMap_cons, mergedProperties_append, hm, mergedProperties]
    cases properties m with
    | none => rfl
    | some fields => exact ih hrest

theorem mergedProperties_opened (s : Schema) (gathered : List (Field Schema)) :
    mergedProperties gathered (s.opened .intersection) = s.properties.map (Field.merge gathered) := by
  induction s using inductionOnOperands .intersection generalizing gathered with
  | single s hs => rw [opened_of_not_joins hs, mergedProperties_singleton]
  | join members label ih =>
    rw [opened_join, Connective.join, mergedProperties_flatMap ih, properties,
      ← mergedProperties_eq_map]

/-! ## Types of fields -/

theorem mergedFields_map {gathered : List (Field Schema)} {members : List Schema}
    (h : ∀ m ∈ members, m.typedFields = m.properties.map fun fields => fields.map (.map valueType)) :
    mergedFields (gathered.map (.map valueType)) members =
      (mergedProperties gathered members).map fun fields => fields.map (.map valueType) := by
  induction members generalizing gathered with
  | nil => rfl
  | cons m rest ih =>
    obtain ⟨hm, hrest⟩ := List.forall_mem_cons.mp h
    rw [mergedFields, mergedProperties, hm]
    cases properties m with
    | none => rfl
    | some fields =>
      simp only [Option.map_some]
      rw [Field.merge_map, ih hrest]

theorem typedFields_eq_map (s : Schema) :
    s.typedFields = s.properties.map fun fields => fields.map (.map valueType) := by
  induction s with
  | object required fields label =>
    rw [typedFields, properties, typedFieldsOf_eq_map, Option.map_some, List.map_map]
    rfl
  | intersection members label ih =>
    rw [typedFields, properties, ← mergedFields_map ih]
    rfl
  | _ => rfl

/-! ## Opening an intersection -/

/-- Opening nested intersections changes neither the issues nor the fields. -/
theorem intersection_flattens (members : List Schema) (label flatLabel : Option String) :
    (∀ m ∈ openedAll .intersection members, ¬ Connective.intersection.Joins m) ∧
    (∀ v path failFast,
      check (.intersection members label) v path failFast =
        check (.intersection (openedAll .intersection members) flatLabel) v path failFast) ∧
    properties (.intersection members label) =
      properties (.intersection (openedAll .intersection members) flatLabel) ∧
    typedFields (.intersection members label) =
      typedFields (.intersection (openedAll .intersection members) flatLabel) ∧
    ∀ member v path failFast,
      check (.intersection [member] label) v path failFast = check member v path failFast := by
  have hopened : openedAll .intersection members =
      opened .intersection (.intersection members label) := by
    rw [opened]
  have hproperties : properties (.intersection members label) =
      properties (.intersection (openedAll .intersection members) flatLabel) := by
    rw [openedAll_eq_flatMap, properties, properties]
    exact (mergedProperties_flatMap fun m _ => mergedProperties_opened m).symm
  refine ⟨?_, ?_, hproperties, ?_, ?_⟩
  · intro m hm
    rw [hopened] at hm
    exact not_joins_of_mem_opened hm
  · intro v path failFast
    rw [check_eq_gatherUntil_opened, check_intersection, hopened]
  · rw [typedFields_eq_map, typedFields_eq_map, hproperties]
  · intro member v path failFast
    rw [check_intersection, gatherUntil_singleton]

end Schema

end GeoSchema
