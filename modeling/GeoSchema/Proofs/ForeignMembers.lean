import GeoSchema.Proofs.ObjectSchemas
import GeoSchema.Proofs.Tags

/-!
# Foreign members

A member under a key that a schema of objects does not declare plays no part in a check: two objects
that agree on the declared keys get the very same issues.
-/

namespace GeoSchema

def AgreeOn (keys : List String) (entries others : List (String × Value)) : Prop :=
  ∀ key ∈ keys, entries.lookup key = others.lookup key

variable {entries others : List (String × Value)}

theorem AgreeOn.mono {keys more : List String} (h : AgreeOn more entries others)
    (hkeys : ∀ key ∈ keys, key ∈ more) : AgreeOn keys entries others :=
  fun key hkey => h key (hkeys key hkey)

namespace Schema

theorem fieldIssues_eq_of_lookup_eq {f : String × Schema} (h : entries.lookup f.1 = others.lookup f.1)
    (required : Bool) (path : Path) (failFast : Bool) :
    fieldIssues required entries path failFast f = fieldIssues required others path failFast f := by
  rw [fieldIssues, fieldIssues, h]

theorem check_eq_of_agreeOn {s : Schema} (hs : s.DescribesObjects)
    (h : AgreeOn s.declaredKeys entries others) (path : Path) (failFast : Bool) :
    s.check (.object entries) path failFast = s.check (.object others) path failFast := by
  induction hs with
  | object required fields label =>
    rw [check_object path failFast (Value.members?_object entries),
      check_object path failFast (Value.members?_object others)]
    refine gatherUntil_congr fun f hf => fieldIssues_eq_of_lookup_eq (h f.1 ?_) required path failFast
    rw [declaredKeys_object]
    exact List.mem_map_of_mem hf
  | intersection label _ _ ih =>
    rw [check_intersection, check_intersection]
    refine gatherUntil_congr fun m hm => ih m hm (h.mono fun key hkey => ?_)
    rw [declaredKeys_intersection]
    exact List.mem_flatMap.mpr ⟨m, hm, hkey⟩

theorem accepts_eq_of_agreeOn {s : Schema} (hs : s.DescribesObjects)
    (h : AgreeOn s.declaredKeys entries others) :
    s.accepts (.object entries) = s.accepts (.object others) := by
  rw [accepts, accepts, check_eq_of_agreeOn hs h]

end Schema

namespace Grammar

open Schema ObjectKind

theorem ObjectKind.describesObjects (kind : ObjectKind) : kind.schema.DescribesObjects := by
  cases kind <;> exact .pair (.object true _ none) (.object false _ none) _

theorem accepts_eq_of_forall_kind {kinds : List ObjectKind} {s : Schema}
    (hs : ∀ v, s.accepts v ↔ ∃ kind ∈ kinds, kind.schema.accepts v)
    (h : ∀ kind ∈ kinds, AgreeOn kind.schema.declaredKeys entries others) :
    s.accepts (.object entries) = s.accepts (.object others) := by
  rw [Bool.eq_iff_iff, hs, hs]
  refine exists_congr fun kind => and_congr_right fun hkind => ?_
  rw [accepts_eq_of_agreeOn kind.describesObjects (h kind hkind)]

/-- Members that the schema does not declare play no part in the report. -/
theorem foreign_members_ignored (entries others : List (String × Value)) :
    (∀ s : Schema, s.DescribesObjects → AgreeOn s.declaredKeys entries others →
      ∀ path failFast,
        s.check (.object entries) path failFast = s.check (.object others) path failFast) ∧
    (∀ kind : ObjectKind, AgreeOn kind.schema.declaredKeys entries others →
      kind.schema.accepts (.object entries) = kind.schema.accepts (.object others)) ∧
    ((∀ kind ∈ direct, AgreeOn kind.schema.declaredKeys entries others) →
      directGeometryObject.accepts (.object entries) = directGeometryObject.accepts (.object others)) ∧
    ((∀ kind ∈ geometries, AgreeOn kind.schema.declaredKeys entries others) →
      geometryObject.accepts (.object entries) = geometryObject.accepts (.object others)) := by
  refine ⟨fun s => check_eq_of_agreeOn, ?_, ?_, ?_⟩
  · intro kind
    exact accepts_eq_of_agreeOn kind.describesObjects
  · exact accepts_eq_of_forall_kind fun _ => accepts_directGeometryObject
  · exact accepts_eq_of_forall_kind fun _ => accepts_geometryObject

theorem foreign_members_ignored_nested :
    check (.intersection [.intersection [.object true [("a", number)] none,
        .object false [("b", text)] none] none, .object false [("c", any)] none] none)
        (.object [("b", .int 7), ("title", .null)]) [.key "at"] false =
      check (.intersection [.intersection [.object true [("a", number)] none,
        .object false [("b", text)] none] none, .object false [("c", any)] none] none)
        (.object [("crs", .list []), ("b", .int 7)]) [.key "at"] false ∧
    feature.accepts (.object [("type", .text "Feature"), ("geometry", .null), ("properties", .null)]) =
      feature.accepts (.object [("crs", .text "4326"), ("type", .text "Feature"), ("geometry", .null),
        ("properties", .null)]) := by
  constructor
  · refine (foreign_members_ignored _ _).1 _ ?_ ?_ _ _
    · exact .pair (.pair (.object _ _ _) (.object _ _ _) _) (.object _ _ _) _
    · have hagree : AgreeOn ["a", "b", "c"] [("b", .int 7), ("title", .null)]
          [("crs", .list []), ("b", .int 7)] := by
        simp only [AgreeOn, List.forall_mem_cons, List.not_mem_nil, false_implies, implies_true, and_true]
        exact ⟨rfl, rfl, rfl⟩
      exact hagree
  · refine (foreign_members_ignored _ _).2.1 .feature ?_
    have hkeys : ObjectKind.feature.schema.declaredKeys = ["type", "geometry", "properties", "id", "bbox"] :=
      rfl
    simp only [hkeys, AgreeOn, List.forall_mem_cons, List.not_mem_nil, false_implies, implies_true, and_true]
    exact ⟨rfl, rfl, rfl, rfl, rfl⟩

end Grammar

end GeoSchema
