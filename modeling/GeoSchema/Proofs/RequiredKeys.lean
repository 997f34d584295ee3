import GeoSchema.Proofs.DescribedTypes
import GeoSchema.Proofs.ObjectSchemas

/-!
# Required keys

The keys that a schema of objects requires by its merged fields are those that no accepted object can
lose. Each of them is demanded somewhere in the schema, whatever else is declared under it.
-/

namespace GeoSchema

/-! ## Required keys of a type -/

namespace Field

variable {α β : Type} {fields declared : List (Field α)}

def requiredKeys (fields : List (Field α)) : List String :=
  (fields.filter (·.required)).map (·.key)

theorem mem_requiredKeys_iff {key : String} :
    key ∈ requiredKeys fields ↔ ∃ f ∈ fields, f.key = key ∧ f.required = true := by
  rw [requiredKeys, List.mem_map]
  simp only [List.mem_filter, and_assoc]
  exact exists_congr fun f => and_congr_right fun _ => and_comm

theorem requiredKeys_map (change : α → β) : requiredKeys (fields.map (map change)) = requiredKeys fields := by
  unfold requiredKeys
  rw [List.filter_map, List.map_map]
  rfl

theorem requiredKeys_of_shown {shown declared : List (Field ValueType)} (h : Shown shown declared) :
    requiredKeys shown = requiredKeys declared := by
  unfold requiredKeys
  induction h with
  | nil => rfl
  | cons hfg _ ih =>
    obtain ⟨hkey, hrequired, _⟩ := hfg
    rw [List.filter_cons, List.filter_cons, hrequired]
    split
    · rw [List.map_cons, List.map_cons, hkey, ih]
    · exact ih

end Field

open GeoSchema.Field Value

namespace ValueType

def requiredKeys? : ValueType → Option (List String)
  | .typedDict _ _ fields => some ((fields.filter (·.2.1)).map (·.1))
  | _ => none

theorem requiredKeys?_typedDictOf (name : String) (mark : Nat) (fields : List (Field ValueType)) :
    (typedDictOf name mark fields).requiredKeys? = some (requiredKeys fields) := by
  rw [typedDictOf, requiredKeys?, List.filter_map, List.map_map]
  rfl

end ValueType

namespace TypedSchema

variable {t : TypedSchema}

theorem TypedByRule.requiredKeys? (h : t.TypedByRule) {fields : List (Field ValueType)}
    (hfields : t.fields = some fields) : t.type.requiredKeys? = some (requiredKeys fields) := by
  cases h with
  | object h required label mark hs hdeclared hshown =>
    cases hfields
    rw [ValueType.requiredKeys?_typedDictOf, requiredKeys_of_shown hshown]
  | merged hne h hsome label mark hs hdeclared hshown =>
    cases hfields
    rw [ValueType.requiredKeys?_typedDictOf, requiredKeys_of_shown hshown]
  | _ => cases hfields

theorem TypedByRule.requiredKeys?_of_properties (h : t.TypedByRule) {fields : List (Field Schema)}
    (hfields : t.schema.properties = some fields) : t.type.requiredKeys? = some (requiredKeys fields) := by
  have hsame := h.describedAlone.fields
  rw [hfields, Option.map_some, Option.map_eq_some_iff] at hsame
  obtain ⟨typed, htyped, hsame⟩ := hsame
  rw [h.requiredKeys? htyped, ← requiredKeys_map ValueType.inhabitants, hsame, requiredKeys_map]

end TypedSchema

/-! ## Objects without a key -/

namespace Value

def without (key : String) (members : List (String × Value)) : List (String × Value) :=
  members.filter (·.1 != key)

theorem lookup_without (key other : String) (members : List (String × Value)) :
    (without key members).lookup other = if other = key then none else members.lookup other := by
  unfold without
  induction members with
  | nil => simp
  | cons m rest ih =>
    obtain ⟨name, v⟩ := m
    rw [List.filter_cons]
    by_cases hother : other = name
    · subst hother
      by_cases hkey : other = key
      · rw [if_neg (by simpa using hkey), ih, if_pos hkey, if_pos hkey]
      · rw [if_pos (by simpa using hkey), if_neg hkey, List.lookup_cons_self, List.lookup_cons_self]
    · have hne : (other == name) = false := beq_eq_false_iff_ne.mpr hother
      rw [List.lookup_cons, hne, ← ih]
      split
      · rw [List.lookup_cons, hne]
      · rfl

end Value

namespace Schema

variable {s : Schema} {key : String}

/-! ## Merged fields -/

theorem mergedProperties_of_forall {members : List Schema} (gathered : List (Field Schema))
    (h : ∀ m ∈ members, ∃ fields, m.properties = some fields ∧
      ∀ before, merge before fields = merge before m.declared) :
    mergedProperties gathered members = some (merge gathered (members.flatMap declared)) := by
  induction members generalizing gathered with
  | nil => rfl
  | cons m rest ih =>
    obtain ⟨hm, hrest⟩ := List.forall_mem_cons.mp h
    obtain ⟨fields, hfields, hmerge⟩ := hm
    rw [mergedProperties, hfields, List.flatMap_cons, merge_append, ← hmerge]
    exact ih _ hrest

theorem exists_properties (hs : s.DescribesObjects) :
    ∃ fields, s.properties = some fields ∧
      ∀ before, merge before fields = merge before s.declared := by
  induction hs with
  | object required fields label => exact ⟨_, rfl, fun _ => rfl⟩
  | intersection label _ _ ih =>
    refine ⟨_, mergedProperties_of_forall [] ih, fun before => ?_⟩
    rw [merge_merge, declared_intersection]

theorem properties_intersection {members : List Schema} (label : Option String)
    (h : ∀ m ∈ members, m.DescribesObjects) :
    properties (.intersection members label) =
      some (merge [] (declared (.intersection members label))) := by
  rw [properties, declared_intersection]
  exact mergedProperties_of_forall [] fun m hm => exists_properties (h m hm)

theorem hasKey_properties_iff (hs : s.DescribesObjects) {fields : List (Field Schema)}
    (hfields : s.properties = some fields) : HasKey key fields ↔ key ∈ s.declaredKeys := by
  rw [declaredKeys, List.mem_map]
  cases hs with
  | object required declared label =>
    cases hfields
    rfl
  | intersection label _ h =>
    rw [properties_intersection label h] at hfields
    cases hfields
    exact hasKey_merge_iff

theorem required_iff_of_mem_properties (hs : s.DescribesObjects) {fields : List (Field Schema)}
    (hfields : s.properties = some fields) {f : Field Schema} (hf : f ∈ fields) :
    f.required = true ↔ ∃ g ∈ s.declared, g.key = f.key ∧ g.required = true := by
  cases hs with
  | object required declared label =>
    cases hfields
    refine ⟨fun hrequired => ⟨f, hf, rfl, hrequired⟩, ?_⟩
    rintro ⟨g, hg, _, hrequired⟩
    -- All fields of one object are required or none is.
    obtain ⟨_, _, rfl⟩ := List.mem_map.mp hf
    obtain ⟨_, _, rfl⟩ := List.mem_map.mp hg
    exact hrequired
  | intersection label _ h =>
    rw [properties_intersection label h] at hfields
    cases hfields
    exact required_iff_of_mem_merge hf

/-! ## What a schema demands -/

/-- An object in the schema declares the key and requires its fields. -/
inductive Demands (key : String) : Schema → Prop where
  | object {fields : List (String × Schema)} {label : Option String} (h : key ∈ fields.map (·.1)) :
    Demands key (.object true fields label)
  | intersection {members : List Schema} {label : Option String} {m : Schema} (hm : m ∈ members)
    (h : Demands key m) : Demands key (.intersection members label)

theorem demands_iff (hs : s.DescribesObjects) :
    s.Demands key ↔ ∃ g ∈ s.declared, g.key = key ∧ g.required = true := by
  induction hs with
  | object required fields label =>
    rw [declared]
    constructor
    · rintro ⟨h⟩
      obtain ⟨f, hf, rfl⟩ := List.mem_map.mp h
      exact ⟨_, List.mem_map_of_mem hf, rfl, rfl⟩
    · rintro ⟨g, hg, rfl, hrequired⟩
      obtain ⟨f, hf, rfl⟩ := List.mem_map.mp hg
      cases hrequired
      exact .object (List.mem_map_of_mem hf)
  | intersection label _ _ ih =>
    rw [declared_intersection]
    constructor
    · rintro (_ | ⟨hm, h⟩)
      obtain ⟨g, hg, hrequired⟩ := (ih _ hm).mp h
      exact ⟨g, List.mem_flatMap.mpr ⟨_, hm, hg⟩, hrequired⟩
    · rintro ⟨g, hg, hrequired⟩
      obtain ⟨m, hm, hg⟩ := List.mem_flatMap.mp hg
      exact .intersection hm ((ih m hm).mpr ⟨g, hg, hrequired⟩)

theorem mem_requiredKeys_iff_demands (hs : s.DescribesObjects) {fields : List (Field Schema)}
    (hfields : s.properties = some fields) : key ∈ requiredKeys fields ↔ s.Demands key := by
  rw [mem_requiredKeys_iff, demands_iff hs]
  constructor
  · rintro ⟨f, hf, rfl, hrequired⟩
    exact (required_iff_of_mem_properties hs hfields hf).mp hrequired
  · rintro ⟨g, hg, rfl, hrequired⟩
    have hkey : HasKey g.key fields :=
      (hasKey_properties_iff hs hfields).mpr (List.mem_map_of_mem hg)
    obtain ⟨f, hf, hsame⟩ := hkey
    exact ⟨f, hf, hsame, (required_iff_of_mem_properties hs hfields hf).mpr ⟨g, hg, hsame.symm, hrequired⟩⟩

theorem accepts_without_iff (hs : s.DescribesObjects) {members : List (String × Value)}
    (h : s.accepts (.object members)) :
    s.accepts (.object (without key members)) ↔ ¬ s.Demands key := by
  have hfree : ¬ s.Demands key ↔ ∀ f ∈ s.declared, f.key = key → f.required = false := by
    rw [demands_iff hs]
    simp
  rw [hfree]
  rw [accepts_object_iff hs] at h ⊢
  refine forall₂_congr fun f hf => ?_
  rw [lookup_without]
  split
  · rename_i hkey
    simp [hkey]
  · rename_i hkey
    exact ⟨fun _ hsame => absurd hsame hkey, fun _ => h f hf⟩

/-- Required are just the keys that no accepted object can lose. -/
theorem required_iff_refused_without (hs : s.DescribesObjects) :
    ∃ fields, s.properties = some fields ∧
      (∀ v, s.accepts v → ∃ members, v = .object members ∧
        ∀ key, s.accepts (.object (without key members)) ↔ key ∉ requiredKeys fields) ∧
      (∀ key, HasKey key fields ↔ key ∈ s.declaredKeys) ∧
      (∀ f ∈ fields, f.required = true ↔ s.Demands f.key) ∧
      ∀ load environment steps d t after,
        Declaration.build d (Session.afterSteps { load, environment } steps).scope = .ok (t, after) →
          t.schema = s → t.type.requiredKeys? = some (requiredKeys fields) := by
  obtain ⟨fields, hfields, _⟩ := exists_properties hs
  refine ⟨fields, hfields, ?_, fun key => hasKey_properties_iff hs hfields, ?_, ?_⟩
  · intro v hv
    obtain ⟨members, rfl⟩ := isObject_of_accepts hs hv
    refine ⟨members, rfl, fun key => ?_⟩
    rw [accepts_without_iff hs hv, mem_requiredKeys_iff_demands hs hfields]
  · intro f hf
    rw [demands_iff hs, required_iff_of_mem_properties hs hfields hf]
  · rintro load environment steps d t after hbuild rfl
    exact (Declaration.typedByRule_of_build rfl steps hbuild).requiredKeys?_of_properties hfields

theorem required_iff_refused_without_overlapping :
    ∃ t after, Declaration.build ⟨[], .intersection [
          .intersection [.object true [("a", .named "any_value")] none] none,
          .object false [("a", .named "string"), ("b", .named "null")] none] none⟩
        (Session.afterSteps { environment := [] } []).scope = .ok (t, after) ∧
      t.type.requiredKeys? = some ["a"] ∧
      t.schema.accepts (.object [("b", .null), ("a", .text "")]) ∧
      t.schema.accepts (.object [("a", .text "")]) ∧ ¬ t.schema.accepts (.object [("b", .null)]) := by
  have hbuild : ∃ t after, Declaration.build ⟨[], .intersection [
          .intersection [.object true [("a", .named "any_value")] none] none,
          .object false [("a", .named "string"), ("b", .named "null")] none] none⟩
        (Session.afterSteps { environment := [] } []).scope = .ok (t, after) ∧
      t.schema = .intersection [.intersection [.object true [("a", Grammar.any)] none] none,
        .object false [("a", Grammar.text), ("b", Grammar.null)] none] none := ⟨_, _, rfl, rfl⟩
  obtain ⟨t, after, hbuild, hschema⟩ := hbuild
  have hobjects : t.schema.DescribesObjects := by
    rw [hschema]
    have hinner : (Schema.intersection [.object true [("a", Grammar.any)] none] none).DescribesObjects :=
      .intersection none (List.cons_ne_nil _ _) (List.forall_mem_singleton.mpr (.object _ _ _))
    exact hinner.pair (.object _ _ _) none
  obtain ⟨fields, hfields, hwithout, _, _, htype⟩ := required_iff_refused_without hobjects
  have hkeys : requiredKeys fields = ["a"] := by
    rw [hschema] at hfields
    cases hfields
    rfl
  have haccepts : t.schema.accepts (.object [("b", .null), ("a", .text "")]) := by
    rw [hschema]
    decide
  rw [hkeys] at htype hwithout
  obtain ⟨members, hmembers, hiff⟩ := hwithout _ haccepts
  obtain rfl := object_injective hmembers
  refine ⟨t, after, hbuild, htype Settings.ofSources [] [] _ _ _ hbuild rfl, haccepts, ?_, ?_⟩
  · exact (hiff "b").mpr (by decide)
  · intro hlost
    exact (hiff "a").mp hlost (by decide)

end Schema

end GeoSchema
