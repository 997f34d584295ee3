import GeoSchema.Proofs.Coordinates
import GeoSchema.Proofs.NewMembers

/-!
# Inclusions in the grammar

The schemas of the grammar are written down apart from one another, and yet fit together: the general
object takes in every kind of object, and the general coordinates take in those of every geometry.
-/

namespace GeoSchema

/-! ## Narrower and wider schemas -/

namespace Schema

variable {s t : Schema} {v : Value}

def Within (s t : Schema) : Prop := ∀ v, s.accepts v → t.accepts v

theorem Within.refl (s : Schema) : s.Within s := fun _ h => h

theorem Within.array (h : s.Within t) (nonEmpty : Bool) (label : Option String) :
    (Schema.array nonEmpty s label).Within (Grammar.array t) := by
  intro v hv
  obtain ⟨elements, helements, _, hall⟩ := accepts_array.mp hv
  unfold Grammar.array
  rw [accepts_array]
  exact ⟨elements, helements, by simp, fun e he => h e (hall e he)⟩

end Schema

namespace Grammar

open Schema Value ObjectKind

variable {v : Value}

/-! ## The general object -/

theorem accepts_geoJsonObject_of_tagged {type : String} {fields free : List (String × Schema)}
    {label : Option String} (htype : geoJsonType.accepts (.text type)) (hbox : ("bbox", boundingBox) ∈ free)
    (h : (Schema.intersection [required (("type", Grammar.tag type) :: fields), Grammar.optional free]
      label).accepts v) : geoJsonObject.accepts v := by
  obtain ⟨members, rfl, hlookup, _, hfree⟩ := (recognizes_tagged _ _ _ _ v).mp h
  unfold geoJsonObject boxed optionalBBox
  rw [recognizes_required_optional]
  refine ⟨members, rfl, ?_, ?_⟩
  · exact List.forall_mem_singleton.mpr ⟨_, hlookup, htype⟩
  · exact List.forall_mem_singleton.mpr (hfree _ hbox)

theorem accepts_geoJsonType_tag (kind : ObjectKind) : geoJsonType.accepts (.text kind.tag) := by
  cases kind <;> decide

theorem accepts_geoJsonObject_of_featureWith {properties : Schema} {label : Option String}
    (h : (featureWith properties label).accepts v) : geoJsonObject.accepts v :=
  accepts_geoJsonObject_of_tagged (accepts_geoJsonType_tag .feature) (by simp) h

theorem accepts_geoJsonObject_of_kind {kind : ObjectKind} (h : kind.schema.accepts v) :
    geoJsonObject.accepts v := by
  have htype := accepts_geoJsonType_tag kind
  cases kind <;> exact accepts_geoJsonObject_of_tagged htype (by simp) h

/-! ## The general coordinates -/

theorem coordinates_of_accepts_geometry {type : String} {c : Schema} (h : (geometry type c).accepts v) :
    ∃ w, v.member? "coordinates" = some w ∧ c.accepts w := by
  obtain ⟨members, rfl, _, hfields, _⟩ := (recognizes_tagged _ _ _ _ v).mp h
  rw [member?_object]
  exact hfields ("coordinates", c) List.mem_cons_self

theorem exists_level_of_direct {kind : ObjectKind} (hkind : kind ∈ direct) :
    ∃ c n, kind.schema = geometry kind.tag c ∧ n < 4 ∧ c.Within (level n) := by
  have hposition : position.Within (level 0) := .refl _
  have hline (nonEmpty : Bool) : (Schema.array nonEmpty position none).Within (level 1) :=
    hposition.array nonEmpty none
  have hrings (nonEmpty : Bool) : (Schema.array nonEmpty (nonEmptyArray position) none).Within (level 2) :=
    (hline true).array nonEmpty none
  have hpolygons : (array (nonEmptyArray (nonEmptyArray position))).Within (level 3) :=
    (hrings true).array false none
  simp only [direct, List.mem_cons, List.not_mem_nil, or_false] at hkind
  rcases hkind with rfl | rfl | rfl | rfl | rfl | rfl
  · exact ⟨_, 0, rfl, by omega, hposition⟩
  · exact ⟨_, 1, rfl, by omega, hline false⟩
  · exact ⟨_, 1, rfl, by omega, hline false⟩
  · exact ⟨_, 2, rfl, by omega, hrings false⟩
  · exact ⟨_, 2, rfl, by omega, hrings true⟩
  · exact ⟨_, 3, rfl, by omega, hpolygons⟩

theorem coordinates_of_direct {kind : ObjectKind} (hkind : kind ∈ direct) (h : kind.schema.accepts v) :
    ∃ w, v.member? "coordinates" = some w ∧ coordinates.accepts w := by
  obtain ⟨c, n, hschema, hn, hlevel⟩ := exists_level_of_direct hkind
  rw [hschema] at h
  obtain ⟨w, hw, hc⟩ := coordinates_of_accepts_geometry h
  exact ⟨w, hw, accepts_coordinates.mpr ⟨n, hn, hlevel w hc⟩⟩

/-! ## One geometry under the type of another -/

theorem accepts_geometry_withMember {type other : String} {c d : Schema} (hcd : c.Within d)
    (h : (geometry type c).accepts v) :
    (geometry other d).accepts (v.withMember "type" (.text other)) := by
  obtain ⟨members, rfl, _, hfields, hfree⟩ := (recognizes_tagged _ _ _ _ v).mp h
  obtain ⟨w, hw, hc⟩ := hfields ("coordinates", c) List.mem_cons_self
  have hcoordinates : "coordinates" ≠ "type" := by decide
  have hbox : "bbox" ≠ "type" := by decide
  refine (recognizes_tagged _ _ _ _ _).mpr ⟨_, withMember_object members, ?_, ?_, ?_⟩
  · rw [Variables.lookup_set, if_pos rfl]
  · refine List.forall_mem_singleton.mpr ⟨w, ?_, hcd w hc⟩
    rw [Variables.lookup_set, if_neg hcoordinates, hw]
  · refine List.forall_mem_singleton.mpr ?_
    rw [Variables.lookup_set, if_neg hbox]
    exact hfree ("bbox", boundingBox) List.mem_cons_self

/-- With the same coordinates, the type alone tells two geometries apart. -/
theorem accepts_retyped_of_accepts_retyped {type other : String} {c : Schema}
    (h : (geometry type c).accepts (v.withMember "type" (.text type))) :
    (geometry other c).accepts (v.withMember "type" (.text other)) := by
  have hretyped : (geometry other c).accepts
      ((v.withMember "type" (.text type)).withMember "type" (.text other)) :=
    accepts_geometry_withMember (.refl c) h
  rwa [withMember_withMember] at hretyped

/-! ## Members of collections -/

theorem geometries_of_accepts_geometryCollection (h : geometryCollection.accepts v) :
    ∃ held elements, v.member? "geometries" = some held ∧ held.elements? = some elements ∧
      ∀ e ∈ elements, directGeometryObject.accepts e := by
  obtain ⟨members, rfl, _, hfields, _⟩ := (recognizes_tagged _ _ _ _ v).mp h
  obtain ⟨held, hheld, haccepts⟩ := hfields ("geometries", array directGeometryObject) List.mem_cons_self
  obtain ⟨elements, helements, _, hall⟩ := accepts_array.mp haccepts
  rw [member?_object]
  exact ⟨held, elements, hheld, helements, hall⟩

theorem accepts_geometryObject_of_direct (h : directGeometryObject.accepts v) :
    geometryObject.accepts v := by
  obtain ⟨kind, hkind, haccepts⟩ := accepts_directGeometryObject.mp h
  exact accepts_geometryObject.mpr ⟨kind, List.mem_append_left _ hkind, haccepts⟩

theorem not_accepts_geometryCollection_of_direct (h : directGeometryObject.accepts v) :
    ¬ geometryCollection.accepts v := by
  obtain ⟨kind, hkind, haccepts⟩ := accepts_directGeometryObject.mp h
  intro hcollection
  obtain rfl : kind = .geometryCollection := kind_unique haccepts hcollection
  exact absurd hkind (by decide)

/-! ## All inclusions -/

/-- Which kinds of the grammar accept what others accept. -/
theorem grammar_ordered_by_inclusion (v : Value) :
    (∀ kind : ObjectKind, kind.schema.accepts v → geoJsonObject.accepts v) ∧
    (∀ properties label, (featureWith properties label).accepts v → geoJsonObject.accepts v) ∧
    (∀ kind ∈ direct, kind.schema.accepts v →
      ∃ w, v.member? "coordinates" = some w ∧ coordinates.accepts w) ∧
    (polygon.accepts v → multiLineString.accepts (v.withMember "type" (.text "MultiLineString"))) ∧
    (multiPoint.accepts (v.withMember "type" (.text "MultiPoint")) ↔
      lineString.accepts (v.withMember "type" (.text "LineString"))) ∧
    (geometryCollection.accepts v → ∃ held elements,
      v.member? "geometries" = some held ∧ held.elements? = some elements ∧
        ∀ e ∈ elements, directGeometryObject.accepts e ∧ geometryObject.accepts e ∧
          ¬ geometryCollection.accepts e) := by
  refine ⟨fun _ => accepts_geoJsonObject_of_kind, fun _ _ => accepts_geoJsonObject_of_featureWith,
    fun _ => coordinates_of_direct, fun h => ?_,
    ⟨accepts_retyped_of_accepts_retyped, accepts_retyped_of_accepts_retyped⟩, fun h => ?_⟩
  · exact accepts_geometry_withMember ((Within.refl (nonEmptyArray position)).array true none) h
  · obtain ⟨held, elements, hheld, helements, hall⟩ := geometries_of_accepts_geometryCollection h
    refine ⟨held, elements, hheld, helements, fun e he => ?_⟩
    have hdirect := hall e he
    exact ⟨hdirect, accepts_geometryObject_of_direct hdirect, not_accepts_geometryCollection_of_direct hdirect⟩

theorem grammar_ordered_by_inclusion_polygon :
    let ring : Value := .list [.tuple [.int 0, .int 0], .list [.int 1, .int 0]]
    let v : Value := .object [("coordinates", .tuple [ring]), ("type", .text "Polygon")]
    geoJsonObject.accepts v ∧
      multiLineString.accepts (v.withMember "type" (.text "MultiLineString")) ∧
      geometryObject.accepts v ∧ ¬ geometryCollection.accepts v := by
  intro ring v
  have hpolygon : polygon.accepts v := by decide
  obtain ⟨hobject, _, _, hlines, _⟩ := grammar_ordered_by_inclusion v
  obtain ⟨held, elements, hheld, helements, hall⟩ :=
    (grammar_ordered_by_inclusion
      (.object [("type", .text "GeometryCollection"), ("geometries", .list [v])])).2.2.2.2.2 (by decide)
  obtain rfl : Value.list [v] = held := Option.some.inj hheld
  obtain rfl : [v] = elements := Option.some.inj helements
  exact ⟨hobject .polygon hpolygon, hlines hpolygon, (hall v List.mem_cons_self).2⟩

end Grammar

end GeoSchema
