import GeoSchema.Proofs.Recognition
import Mathlib.Data.List.Basic

/-!
# The GeoJSON language

`GeoJson.IsFeatureCollection` says which values are feature collections, with no word of schemas.
The grammar accepts these values and no others.
-/

namespace GeoSchema

/-! ## The language -/

namespace GeoJson

open Value

/-- Longitude and latitude, and nothing else. -/
def IsPosition (v : Value) : Prop :=
  ∃ x y, (v = .list [x, y] ∨ v = .tuple [x, y]) ∧ IsNumber x ∧ IsNumber y

/-- A bounding box may be left out. -/
structure IsBoxed (v : Value) (members : List (String × Value)) : Prop where
  object : v = .object members
  bbox : ∀ box, members.lookup "bbox" = some box → IsSequenceOf IsNumber box

/-- The coordinates of a geometry, by its type. -/
inductive HasCoordinates : String → Value → Prop where
  | point {c} (h : IsPosition c) : HasCoordinates "Point" c
  | multiPoint {c} (h : IsSequenceOf IsPosition c) : HasCoordinates "MultiPoint" c
  | lineString {c} (h : IsSequenceOf IsPosition c) : HasCoordinates "LineString" c
  | multiLineString {c} (h : IsSequenceOf (IsNonEmptySequenceOf IsPosition) c) :
    HasCoordinates "MultiLineString" c
  | polygon {c} (h : IsNonEmptySequenceOf (IsNonEmptySequenceOf IsPosition) c) :
    HasCoordinates "Polygon" c
  | multiPolygon {c}
    (h : IsSequenceOf (IsNonEmptySequenceOf (IsNonEmptySequenceOf IsPosition)) c) :
    HasCoordinates "MultiPolygon" c

def IsDirectGeometry (v : Value) : Prop :=
  ∃ members type coordinates, IsBoxed v members ∧ members.lookup "type" = some (.text type) ∧
    members.lookup "coordinates" = some coordinates ∧ HasCoordinates type coordinates

/-- Collections hold direct geometries, and so no collections. -/
def IsGeometryCollection (v : Value) : Prop :=
  ∃ members geometries, IsBoxed v members ∧
    members.lookup "type" = some (.text "GeometryCollection") ∧
    members.lookup "geometries" = some geometries ∧ IsSequenceOf IsDirectGeometry geometries

def IsGeometry (v : Value) : Prop := IsDirectGeometry v ∨ IsGeometryCollection v

/-- The geometry and the properties must be there, but may be `null`. -/
def IsFeature (v : Value) : Prop :=
  ∃ members geometry properties, IsBoxed v members ∧
    members.lookup "type" = some (.text "Feature") ∧
    members.lookup "geometry" = some geometry ∧ (IsGeometry geometry ∨ geometry = .null) ∧
    members.lookup "properties" = some properties ∧ (IsObject properties ∨ properties = .null) ∧
    ∀ id, members.lookup "id" = some id → IsText id ∨ IsNumber id

def IsFeatureCollection (v : Value) : Prop :=
  ∃ members features, IsBoxed v members ∧
    members.lookup "type" = some (.text "FeatureCollection") ∧
    members.lookup "features" = some features ∧ IsSequenceOf IsFeature features

end GeoJson

/-! ## The grammar recognizes it -/

namespace Grammar

open Schema Value GeoJson

theorem recognizes_boundingBox : boundingBox.Recognizes (IsSequenceOf IsNumber) :=
  recognizes_array _ recognizes_number

theorem recognizes_position : position.Recognizes IsPosition := by
  intro v
  unfold position
  rw [accepts_tuple]
  constructor
  · rintro ⟨elements, hv, hlen, hparts⟩
    obtain ⟨x, y, rfl⟩ := List.length_eq_two.mp hlen
    simp only [List.zip_cons_cons, List.forall_mem_cons] at hparts
    obtain ⟨hx, hy, _⟩ := hparts
    exact ⟨x, y, elements?_eq_some_iff.mp hv, (recognizes_number x).mp hx,
      (recognizes_number y).mp hy⟩
  · rintro ⟨x, y, hv, hx, hy⟩
    refine ⟨[x, y], elements?_eq_some_iff.mpr hv, rfl, ?_⟩
    simp only [List.zip_cons_cons, List.forall_mem_cons]
    exact ⟨(recognizes_number x).mpr hx, (recognizes_number y).mpr hy, by simp⟩

theorem isBoxed_iff {v : Value} {members : List (String × Value)} :
    IsBoxed v members ↔ v = .object members ∧
      ∀ box, members.lookup "bbox" = some box → boundingBox.accepts box := by
  have hbox (box : Value) := recognizes_boundingBox box
  simp only [hbox]
  exact ⟨fun h => ⟨h.object, h.bbox⟩, fun h => ⟨h.1, h.2⟩⟩

theorem recognizes_boxed_pair {type key : String} {field : Schema} {P : Value → Prop} {label : String}
    (h : field.Recognizes P) :
    (boxed [("type", tag type), (key, field)] label).Recognizes fun v =>
      ∃ members w, IsBoxed v members ∧ members.lookup "type" = some (.text type) ∧
        members.lookup key = some w ∧ P w := by
  intro v
  unfold boxed optionalBBox
  rw [recognizes_required_optional]
  simp only [List.forall_mem_cons, List.not_mem_nil, false_implies, implies_true, and_true]
  constructor
  · rintro ⟨members, hv, ⟨⟨t, htype, ht⟩, w, hw, hP⟩, hbox⟩
    obtain rfl := (recognizes_tag type t).mp ht
    exact ⟨members, w, isBoxed_iff.mpr ⟨hv, hbox⟩, htype, hw, (h w).mp hP⟩
  · rintro ⟨members, w, hboxed, htype, hw, hP⟩
    obtain ⟨hv, hbox⟩ := isBoxed_iff.mp hboxed
    have htag : (tag type).accepts (.text type) := (recognizes_tag type _).mpr rfl
    exact ⟨members, hv, ⟨⟨_, htype, htag⟩, w, hw, (h w).mpr hP⟩, hbox⟩

theorem recognizes_geometry {type : String} {coordinates : Schema} {P : Value → Prop}
    (h : coordinates.Recognizes P) :
    (geometry type coordinates).Recognizes fun v =>
      ∃ members c, IsBoxed v members ∧ members.lookup "type" = some (.text type) ∧
        members.lookup "coordinates" = some c ∧ P c :=
  recognizes_boxed_pair h

theorem isDirectGeometry_of_accepts {a : Schema} {type : String} {P : Value → Prop}
    (ha : a.Recognizes fun v => ∃ members c, IsBoxed v members ∧
      members.lookup "type" = some (.text type) ∧ members.lookup "coordinates" = some c ∧ P c)
    (hP : ∀ c, P c → HasCoordinates type c) {v : Value} (hv : a.accepts v) : IsDirectGeometry v := by
  obtain ⟨members, c, hboxed, htype, hc, h⟩ := (ha v).mp hv
  exact ⟨members, type, c, hboxed, htype, hc, hP c h⟩

theorem recognizes_directGeometryObject : directGeometryObject.Recognizes IsDirectGeometry := by
  have hline := recognizes_array none recognizes_position
  have hring := recognizes_nonEmptyArray recognizes_position
  have hrings := recognizes_nonEmptyArray hring
  have hpoint : point.Recognizes _ := recognizes_geometry recognizes_position
  have hmultiPoint : multiPoint.Recognizes _ := recognizes_geometry hline
  have hlineString : lineString.Recognizes _ := recognizes_geometry hline
  have hmultiLineString : multiLineString.Recognizes _ := recognizes_geometry (recognizes_array none hring)
  have hpolygon : polygon.Recognizes _ := recognizes_geometry hrings
  have hmultiPolygon : multiPolygon.Recognizes _ := recognizes_geometry (recognizes_array none hrings)
  intro v
  unfold directGeometryObject
  rw [accepts_union]
  constructor
  · rintro ⟨a, ha, haccepts⟩
    simp only [List.mem_cons, List.not_mem_nil, or_false] at ha
    rcases ha with rfl | rfl | rfl | rfl | rfl | rfl
    · exact isDirectGeometry_of_accepts hpoint (fun _ => .point) haccepts
    · exact isDirectGeometry_of_accepts hmultiPoint (fun _ => .multiPoint) haccepts
    · exact isDirectGeometry_of_accepts hlineString (fun _ => .lineString) haccepts
    · exact isDirectGeometry_of_accepts hmultiLineString (fun _ => .multiLineString) haccepts
    · exact isDirectGeometry_of_accepts hpolygon (fun _ => .polygon) haccepts
    · exact isDirectGeometry_of_accepts hmultiPolygon (fun _ => .multiPolygon) haccepts
  · rintro ⟨members, type, c, hboxed, htype, hc, hcoordinates⟩
    cases hcoordinates with
    | point h =>
      exact ⟨point, by simp, (hpoint v).mpr ⟨members, c, hboxed, htype, hc, h⟩⟩
    | multiPoint h =>
      exact ⟨multiPoint, by simp, (hmultiPoint v).mpr ⟨members, c, hboxed, htype, hc, h⟩⟩
    | lineString h =>
      exact ⟨lineString, by simp, (hlineString v).mpr ⟨members, c, hboxed, htype, hc, h⟩⟩
    | multiLineString h =>
      exact ⟨multiLineString, by simp, (hmultiLineString v).mpr ⟨members, c, hboxed, htype, hc, h⟩⟩
    | polygon h =>
      exact ⟨polygon, by simp, (hpolygon v).mpr ⟨members, c, hboxed, htype, hc, h⟩⟩
    | multiPolygon h =>
      exact ⟨multiPolygon, by simp, (hmultiPolygon v).mpr ⟨members, c, hboxed, htype, hc, h⟩⟩

theorem recognizes_geometryCollection : geometryCollection.Recognizes IsGeometryCollection :=
  recognizes_boxed_pair (recognizes_array none recognizes_directGeometryObject)

theorem recognizes_geometryObject : geometryObject.Recognizes IsGeometry :=
  recognizes_union_pair _ recognizes_directGeometryObject recognizes_geometryCollection

theorem recognizes_textKeys : (Schema.dictionary text any none).Recognizes IsObject := by
  intro v
  rw [accepts_dictionary]
  constructor
  · rintro ⟨entries, hv, hentries⟩
    cases hmembers : v.members? with
    | some members => exact ⟨members, members?_eq_some_iff.mp hmembers⟩
    | none =>
      rcases members?_eq_none_iff.mp hmembers with h | ⟨entries', hv', e, he, hkey⟩
      · rw [h] at hv
        exact absurd hv (by simp)
      · obtain rfl : entries = entries' := Option.some.inj (hv.symm.trans hv')
        obtain ⟨name, hname⟩ := (recognizes_text e.1).mp (hentries e he).1
        exact absurd hname (hkey name)
  · rintro ⟨members, rfl⟩
    refine ⟨_, rfl, ?_⟩
    intro e he
    obtain ⟨m, _, rfl⟩ := List.mem_map.mp he
    exact ⟨(recognizes_text _).mpr ⟨m.1, rfl⟩, accepts_any _⟩

theorem recognizes_feature : feature.Recognizes IsFeature := by
  have hgeometry := recognizes_union_pair none recognizes_geometryObject recognizes_null
  have hproperties := recognizes_union_pair "PropertiesIO" recognizes_textKeys recognizes_null
  have hid := recognizes_union_pair none recognizes_text recognizes_number
  intro v
  unfold feature featureWith featureGeometry featureId properties
  rw [recognizes_required_optional]
  simp only [List.forall_mem_cons, List.not_mem_nil, false_implies, implies_true, and_true]
  constructor
  · rintro ⟨members, hv, ⟨⟨t, htype, ht⟩, ⟨g, hg, hgeo⟩, p, hp, hprops⟩, hidentity, hbox⟩
    obtain rfl := (recognizes_tag "Feature" t).mp ht
    refine ⟨members, g, p, isBoxed_iff.mpr ⟨hv, hbox⟩, htype, hg, (hgeometry g).mp hgeo, hp,
      (hproperties p).mp hprops, ?_⟩
    intro id hlookup
    exact (hid id).mp (hidentity id hlookup)
  · rintro ⟨members, g, p, hboxed, htype, hg, hgeo, hp, hprops, hidentity⟩
    obtain ⟨hv, hbox⟩ := isBoxed_iff.mp hboxed
    have htag : (tag "Feature").accepts (.text "Feature") := (recognizes_tag "Feature" _).mpr rfl
    refine ⟨members, hv, ⟨⟨_, htype, htag⟩, ⟨g, hg, (hgeometry g).mpr hgeo⟩, p, hp,
      (hproperties p).mpr hprops⟩, ?_, hbox⟩
    intro id hlookup
    exact (hid id).mpr (hidentity id hlookup)

/-- The schema of feature collections accepts the language, and nothing else. -/
theorem featureCollection_accepts_iff (d : Value) :
    featureCollection.accepts d = true ↔ IsFeatureCollection d := by
  have hfeatures := recognizes_array none recognizes_feature
  exact recognizes_boxed_pair hfeatures d

end Grammar

end GeoSchema
