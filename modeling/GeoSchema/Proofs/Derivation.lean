import GeoSchema.Proofs.TypeSoundness

/-!
# Types of schemas in use

What a session builds is typed by the rules, whatever was built and defined before it. So its type
describes what the schema accepts, and that of an intersection is told by its members.
-/

namespace GeoSchema

theorem Blueprint.build_intersection_ok {parts : List Blueprint} {label : Option String} {scope after : Scope}
    {t : TypedSchema} (h : (Blueprint.intersection parts label).build.run scope = .ok (t, after)) :
    ∃ members between, (buildAll parts).run scope = .ok (members, between) ∧ members ≠ [] ∧
      t = (TypedSchema.intersection members label between.nextMark between.memory).1 := by
  rw [build] at h
  obtain ⟨members, between, hparts, h⟩ := run_bind_ok h
  refine ⟨members, between, hparts, ?_⟩
  split at h
  · cases h
  · rename_i hne
    refine ⟨hne, ?_⟩
    cases h
    rfl

/-! ## Intersections -/

namespace TypedSchema

variable {members : List TypedSchema} {memory : Memory}

/-- The merged fields, or else the type of the first member. -/
structure TypedFromMembers (t : TypedSchema) (members : List TypedSchema) : Prop where
  merged : (∀ m ∈ members, m.fields.isSome) →
    ∃ fields, t.fields = some fields ∧
      (∀ f, f ∈ fields ↔ Field.governing? f.key (declaredFields members) = some f) ∧
        ∀ v : Value, v.Inhabits t.type ↔ v.Fits fields
  first : (∃ m ∈ members, m.fields = none) → ∃ m ∈ members.head?, t.type = m.type

theorem typedFromMembers_intersection (hmemory : memory.Formed) (hne : members ≠ [])
    (label : Option String) (mark : Nat) :
    (intersection members label mark memory).1.TypedFromMembers members := by
  unfold intersection
  constructor
  · intro hsome
    rw [mergedFields_of_isSome hsome]
    obtain ⟨⟨shown, hshown, htype⟩, _⟩ := Memory.formed_typedDict hmemory
      (Schema.intersection (schemas members) label).name mark
      (Field.merge [] (declaredFields members))
    refine ⟨_, rfl, fun f => Field.mem_merge_iff, fun v => ?_⟩
    dsimp only
    rw [htype, ValueType.inhabits_typedDictOf]
    exact Value.fits_iff_of_shown hshown v
  · intro hnone
    rw [mergedFields_of_none hnone]
    obtain ⟨first, rest, rfl⟩ := List.exists_cons_of_ne_nil hne
    exact ⟨first, rfl, rfl⟩

end TypedSchema

/-! ## Declarations -/

open TypedSchema

namespace Declaration

/-- What a schema accepts inhabits the type that it is built with. -/
theorem build_type_sound (load : Loader) (environment : Variables String) (steps : List Step)
    {d : Declaration} {t : TypedSchema} {after : Scope}
    (hbuild : d.build (Session.afterSteps { load, environment } steps).scope = .ok (t, after)) :
    (∀ v, t.schema.accepts v → v.Inhabits t.type) ∧
      ∀ parts label, d.schema = .intersection parts label →
        ∃ inner members between,
          (Blueprint.defineAll d.defs).run (Session.afterSteps { load, environment } steps).scope =
            .ok ((), inner) ∧
          (Blueprint.buildAll parts).run inner = .ok (members, between) ∧
          t.schema = .intersection (schemas members) label ∧ t.TypedFromMembers members := by
  have hrules : Blueprint.Invariant _ TypedByRule := inherited_typedByRule.invariant
  have hstart : ({ load, environment } : Session).scope = {} := rfl
  have hscope := inherited_typedByRule.keeps_afterSteps ⟨by simp, by simp⟩ hstart steps
  refine ⟨(typedByRule_of_build hstart steps hbuild).sound.inhabits, ?_⟩
  intro parts label hparts
  obtain ⟨inner, built, hdefs, hschema, _⟩ := build_ok hbuild
  obtain ⟨_, hinner⟩ := hrules.keeps_defineAll d.defs _ hscope () inner hdefs
  rw [hparts] at hschema
  obtain ⟨members, between, hmembers, hne, rfl⟩ := Blueprint.build_intersection_ok hschema
  obtain ⟨_, _, hmemory⟩ := hrules.keeps_buildAll parts inner hinner members between hmembers
  refine ⟨inner, members, between, hdefs, hmembers, intersection_schema label _, ?_⟩
  exact typedFromMembers_intersection hmemory hne label _

theorem build_type_sound_overlapping :
    ∃ t after, build ⟨[], .intersection [.named "record", .object false [("a", .named "any_value")] none]
        none⟩ (Session.afterSteps { environment := [] }
          [.define "record" ⟨[], .object true [("a", .named "number")] none⟩]).scope = .ok (t, after) ∧
      t.schema.accepts (.object [("a", .int 1)]) ∧
        (Value.object [("a", .int 1)]).Inhabits t.type ∧
          ∃ fields, t.fields = some fields ∧ ⟨"a", true, .number⟩ ∈ fields := by
  refine ⟨_, _, rfl, by decide, ?_⟩
  obtain ⟨hinhabits, hmembers⟩ := build_type_sound Settings.ofSources []
    [.define "record" ⟨[], .object true [("a", .named "number")] none⟩]
    (d := ⟨[], .intersection [.named "record", .object false [("a", .named "any_value")] none] none⟩) rfl
  refine ⟨hinhabits _ (by decide), ?_⟩
  obtain ⟨inner, members, _, hinner, hparts, _, hmerged, _⟩ := hmembers _ _ rfl
  cases hinner
  cases hparts
  obtain ⟨fields, hfields, hgoverning, _⟩ := hmerged (by decide)
  exact ⟨fields, hfields, (hgoverning _).mpr rfl⟩

end Declaration

end GeoSchema
