import GeoSchema.Schema.Basic

/-!
# The GeoJSON grammar

Named schemas for GeoJSON objects and their parts, from the bottom up. Members that the grammar
does not name are free.
-/

namespace GeoSchema.Grammar

/-! ## Shorthands -/

def number : Schema := .primitive .number
def text : Schema := .primitive .text
def null : Schema := .primitive .null
def any : Schema := .primitive .any

def tag (type : String) : Schema := .literal (.text type) none

def array (item : Schema) : Schema := .array false item none
def nonEmptyArray (item : Schema) : Schema := .array true item none

def required (fields : List (String × Schema)) : Schema := .object true fields none
def optional (fields : List (String × Schema)) : Schema := .object false fields none

/-! ## Type tags -/

def directGeometryType : Schema :=
  .union [tag "Point", tag "Polygon", tag "LineString", tag "MultiPoint", tag "MultiPolygon",
    tag "MultiLineString"] "DirectGeometryTypeIO"

def geometryCollectionType : Schema :=
  .literal (.text "GeometryCollection") "GeometryCollectionTypeIO"

def geometryType : Schema :=
  .union [directGeometryType, geometryCollectionType] "GeometryTypeIO"

def geoJsonType : Schema :=
  .union [geometryType, .union [tag "Feature", tag "FeatureCollection"] none] "GeoJsonTypeIO"

/-! ## Parts -/

/-- Any count of numbers. -/
def boundingBox : Schema := .array false number "BoundingBoxIO"

def optionalBBox : Schema := optional [("bbox", boundingBox)]

def boxed (fields : List (String × Schema)) (label : String) : Schema :=
  .intersection [required fields, optionalBBox] label

def geoJsonObject : Schema := boxed [("type", geoJsonType)] "GeoJsonObjectIO"

def position : Schema := .tuple [number, number] "PositionIO"

/-- Shallow to deep: a bare position comes before any array. -/
def coordinates : Schema :=
  .union [position, array position, array (array position), array (array (array position))]
    "CoordinatesIO"

/-- The key of the properties is mandatory, but their value may be `null`. -/
def properties : Schema := .union [.dictionary text any none, null] "PropertiesIO"

/-! ## Geometries -/

def geometry (type : String) (coordinates : Schema) : Schema :=
  boxed [("type", tag type), ("coordinates", coordinates)] (type ++ "IO")

def point : Schema := geometry "Point" position
def multiPoint : Schema := geometry "MultiPoint" (array position)
def lineString : Schema := geometry "LineString" (array position)
def multiLineString : Schema := geometry "MultiLineString" (array (nonEmptyArray position))
def polygon : Schema := geometry "Polygon" (nonEmptyArray (nonEmptyArray position))
def multiPolygon : Schema :=
  geometry "MultiPolygon" (array (nonEmptyArray (nonEmptyArray position)))

def directGeometryObject : Schema :=
  .union [point, multiPoint, lineString, multiLineString, polygon, multiPolygon]
    "DirectGeometryObjectIO"

/-- Members are direct geometries only, so that collections do not nest. -/
def geometryCollection : Schema :=
  boxed [("type", tag "GeometryCollection"), ("geometries", array directGeometryObject)]
    "GeometryCollectionIO"

def geometryObject : Schema :=
  .union [directGeometryObject, geometryCollection] "GeometryObjectIO"

/-! ## Features -/

def featureGeometry : Schema := .union [geometryObject, null] none

def featureId : Schema := .union [text, number] none

/-- A feature with properties of the caller's choice. Whether they may be `null` is up to their
schema. -/
def featureWith (properties : Schema) (label : Option String) : Schema :=
  .intersection
    [required [("type", tag "Feature"), ("geometry", featureGeometry), ("properties", properties)],
      optional [("id", featureId), ("bbox", boundingBox)]] label

def feature : Schema := featureWith properties "FeatureIO"

def featureCollection : Schema :=
  boxed [("type", tag "FeatureCollection"), ("features", array feature)] "FeatureCollectionIO"

/-! ## The catalogue -/

def catalogue : List (String × Schema) :=
  [("number", number), ("string", text), ("null", null), ("any_value", any),
    ("DirectGeometryTypeIO", directGeometryType),
    ("GeometryCollectionTypeIO", geometryCollectionType), ("GeometryTypeIO", geometryType),
    ("GeoJsonTypeIO", geoJsonType), ("BoundingBoxIO", boundingBox),
    ("GeoJsonObjectIO", geoJsonObject), ("PositionIO", position), ("CoordinatesIO", coordinates),
    ("PointIO", point), ("MultiPointIO", multiPoint), ("LineStringIO", lineString),
    ("MultiLineStringIO", multiLineString), ("PolygonIO", polygon),
    ("MultiPolygonIO", multiPolygon), ("DirectGeometryObjectIO", directGeometryObject),
    ("GeometryCollectionIO", geometryCollection), ("GeometryObjectIO", geometryObject),
    ("PropertiesIO", properties), ("FeatureIO", feature),
    ("FeatureCollectionIO", featureCollection)]

end GeoSchema.Grammar
