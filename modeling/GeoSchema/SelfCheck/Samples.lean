import GeoSchema.Double.Rounding
import GeoSchema.Grammar
import GeoSchema.SelfCheck.Basic

/-!
# The sample documents of the self-check

Two documents that are accepted and two that are not.
-/

namespace GeoSchema.SelfCheck

/-! ## Shorthands -/

def object (members : List (String × Value)) : Value :=
  .dict (members.map fun (key, v) => (.text key, v))

def collectionOf (features : List Value) : Value :=
  object [("type", .text "FeatureCollection"), ("features", .list features)]

def geometry (type : String) (coordinates : Value) : Value :=
  object [("type", .text type), ("coordinates", coordinates)]

def point (x y : Double) : Value := .list [.float x, .float y]

def origin : Value := .list [.int 0, .int 0]

/-! ## Documents -/

def lineCollection : Value :=
  collectionOf
    [object
      [("type", .text "Feature"),
        ("properties", object []),
        ("geometry", geometry "LineString" (.list
          [point (-54.4921875) 39.36827914916014, point 18.984375 59.712097173322924,
            point 33.3984375 1.4061088354351594, point (-36.9140625) 12.211180191503997,
            point (-54.140625) 37.71859032558816, point 82.265625 (-10.833305983642491)]))]]

/-- No feature of it has properties. -/
def collectionWithoutProperties : Value :=
  let feature (geometry : Value) := object [("type", .text "Feature"), ("geometry", geometry)]
  collectionOf
    [feature (geometry "Point" origin),
      feature (geometry "LineString" (.list [point 4e6 (-2e6), point 8e6 2e6])),
      feature (geometry "LineString" (.list [point 4e6 2e6, point 8e6 (-2e6)])),
      feature (geometry "Polygon" (.list [.list [point (-5e6) (-1e6), point (-4e6) 1e6, point (-3e6) (-1e6)]])),
      feature (geometry "MultiLineString" (.list
        [.list [point (-1e6) (-7.5e5), point (-1e6) 7.5e5],
          .list [point 1e6 (-7.5e5), point 1e6 7.5e5],
          .list [point (-7.5e5) (-1e6), point 7.5e5 (-1e6)],
          .list [point (-7.5e5) 1e6, point 7.5e5 1e6]])),
      feature (geometry "MultiPolygon" (.list
        [.list [.list [point (-5e6) 6e6, point (-5e6) 8e6, point (-3e6) 8e6, point (-3e6) 6e6]],
          .list [.list [point (-2e6) 6e6, point (-2e6) 8e6, .list [.int 0, .float 8e6],
            .list [.int 0, .float 6e6]]],
          .list [.list [point 1e6 6e6, point 1e6 8e6, point 3e6 8e6, point 3e6 6e6]]])),
      feature (object
        [("type", .text "GeometryCollection"),
          ("geometries", .list
            [geometry "LineString" (.list [point (-5e6) (-5e6), .list [.int 0, .float (-5e6)]]),
              geometry "Point" (point 4e6 (-5e6)),
              geometry "Polygon" (.list [.list [point 1e6 (-6e6), point 2e6 (-4e6), point 3e6 (-6e6)]])])])]

def goodFeature : Value :=
  object
    [("type", .text "Feature"), ("geometry", geometry "Point" origin), ("properties", .null)]

/-- A feature is no geometry. -/
def badFeature : Value :=
  object
    [("type", .text "Feature"), ("geometry", geometry "Feature" origin), ("properties", .null)]

/-! ## Checks -/

def samples : List SampleCheck :=
  [⟨"line collection", lineCollection, Grammar.featureCollection, true⟩,
    ⟨"missing properties collection", collectionWithoutProperties, Grammar.featureCollection, false⟩,
    ⟨"good feature", goodFeature, Grammar.feature, true⟩,
    ⟨"bad feature", badFeature, Grammar.feature, false⟩]

/-- The checks with the expectations at these places turned round. -/
def flipped (places : List Nat) (checks : List SampleCheck) : List SampleCheck :=
  checks.zipIdx.map fun (c, i) =>
    if places.contains i then { c with shouldValidate := !c.shouldValidate } else c

end GeoSchema.SelfCheck
