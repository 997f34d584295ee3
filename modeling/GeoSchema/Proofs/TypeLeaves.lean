import GeoSchema.Proofs.ObjectReports
import GeoSchema.Proofs.Tags

/-!
# Leaves at the type

A refused geometry is blamed at its type by every kind of geometry that the type does not name, and once
by each, whatever else is wrong with it. So the leaves there tell which types are expected.
-/

namespace GeoSchema

namespace Issue

variable {place : Path} {issues more : List Issue}

def leavesAt (place : Path) (issues : List Issue) : List Issue :=
  (leavesOf issues).filter fun leaf => leaf.path = place

theorem leavesAt_append : leavesAt place (issues ++ more) = leavesAt place issues ++ leavesAt place more := by
  unfold leavesAt
  rw [leavesOf_append, List.filter_append]

theorem leavesAt_refusal (expected : String) (kind : IssueKind) (v : Value) :
    leavesAt place [refusal place expected kind v] = [refusal place expected kind v] := by
  have hleaves : leavesOf [refusal place expected kind v] = [refusal place expected kind v] := rfl
  rw [leavesAt, hleaves]
  simp [refusal]

theorem leavesAt_eq_nil (h : ∀ issue : Issue, issue.InForest issues → ¬ place <+: issue.path) :
    leavesAt place issues = [] := by
  unfold leavesAt
  rw [List.filter_eq_nil_iff]
  intro leaf hleaf hplace
  obtain rfl : leaf.path = place := by simpa using hplace
  exact h leaf (mem_leavesOf_iff.mp hleaf).1 (List.prefix_refl _)

/-- A loop reports its first part in any case. -/
theorem leavesAt_gatherUntil_cons {α : Type} {stop : List Issue → Bool} {issuesOf : α → List Issue}
    {part : α} {parts : List α}
    (h : ∀ other ∈ parts, ∀ issue : Issue, issue.InForest (issuesOf other) →
      ¬ place <+: issue.path) :
    leavesAt place (gatherUntil stop issuesOf (part :: parts)) = leavesAt place (issuesOf part) := by
  rw [gatherUntil]
  split
  · rfl
  · have hrest : leavesAt place (gatherUntil stop issuesOf parts) = [] := by
      apply leavesAt_eq_nil
      intro issue hissue
      obtain ⟨other, hother, hissue⟩ := hissue.exists_of_gatherUntil
      exact h other hother issue hissue
    rw [leavesAt_append, hrest, List.append_nil]

end Issue

namespace Schema

open Issue

variable {entries : List (String × Value)} {path : Path} {failFast : Bool}

theorem not_prefix_of_inForest_check_object {required : Bool} {fields : List (String × Schema)}
    {label : Option String} {key : String} (hkey : ∀ f ∈ fields, f.1 ≠ key) {issue : Issue}
    (h : issue.InForest (check (.object required fields label) (.object entries) path failFast)) :
    ¬ path ++ [.key key] <+: issue.path := by
  rw [check_object path failFast (Value.members?_object entries)] at h
  obtain ⟨f, hf, h⟩ := h.exists_of_gatherUntil
  exact not_prefix_of_inForest_fieldIssues (hkey f hf) h

theorem leavesAt_check_opened {s : Schema} {v : Value} {place : Path} (hs : s.unionsNonEmpty = true)
    (h : s.accepts v = false) :
    leavesAt place (s.check v path failFast) =
      (s.opened .union).flatMap fun a => leavesAt place (a.check v path failFast) := by
  unfold leavesAt
  rw [leavesOf_check_opened hs h, List.filter_flatMap]

end Schema

namespace Grammar

open Schema Value Issue ObjectKind

variable {entries : List (String × Value)} {path : Path} {failFast : Bool}

/-! ## One kind of geometry -/

def quoted (type : String) : String := "\"" ++ type ++ "\""

/-- What is said at the type of an object that ought to be of this type. -/
def typeIssues (place : Path) (found : Option Value) (type : String) : List Issue :=
  match found with
  | none => [.refusal place (quoted type) .missingField .null]
  | some w => if (tag type).accepts w then [] else [.refusal place (quoted type) .tagMismatch w]

theorem fieldIssues_tag (type : String) :
    fieldIssues true entries path failFast ("type", tag type) =
      typeIssues (path ++ [.key "type"]) (entries.lookup "type") type := by
  unfold fieldIssues typeIssues
  cases entries.lookup "type" with
  | none => rfl
  | some w =>
    dsimp only
    split
    · rename_i haccepts
      exact check_eq_nil_iff_accepts.mpr haccepts
    · rename_i hrefused
      have hrefuses : (tag type).Refuses w .tagMismatch := by
        refine .literal fun hequals => hrefused ?_
        exact accepts_literal.mpr hequals
      exact check_of_refuses _ failFast hrefuses

theorem leavesAt_typeIssues (place : Path) (found : Option Value) (type : String) :
    leavesAt place (typeIssues place found type) = typeIssues place found type := by
  unfold typeIssues
  split
  · exact leavesAt_refusal _ _ _
  · split
    · rfl
    · exact leavesAt_refusal _ _ _

theorem leavesAt_check_boxed (type label : String) {fields : List (String × Schema)}
    (hfields : ∀ f ∈ fields, f.1 ≠ "type") :
    leavesAt (path ++ [.key "type"])
        ((boxed (("type", tag type) :: fields) label).check (.object entries) path failFast) =
      typeIssues (path ++ [.key "type"]) (entries.lookup "type") type := by
  unfold boxed required
  -- The type comes first in the loop over the members and in that over the fields.
  rw [check_intersection, leavesAt_gatherUntil_cons, check_object path failFast (members?_object entries),
    leavesAt_gatherUntil_cons, fieldIssues_tag, leavesAt_typeIssues]
  · intro f hf issue h
    exact not_prefix_of_inForest_fieldIssues (hfields f hf) h
  · intro m hm issue h
    rw [List.mem_singleton.mp hm] at h
    exact not_prefix_of_inForest_check_object (by simp) h

/-! ## All kinds of geometry -/

def geometryTags : List String :=
  ["Point", "MultiPoint", "LineString", "MultiLineString", "Polygon", "MultiPolygon", "GeometryCollection"]

theorem exists_boxed_of_geometry {kind : ObjectKind} (hkind : kind ∈ geometries) :
    ∃ key s label, key ≠ "type" ∧
      kind.schema = boxed [("type", Grammar.tag kind.tag), (key, s)] label := by
  simp only [geometries, direct, List.cons_append, List.nil_append, List.mem_cons, List.not_mem_nil,
    or_false] at hkind
  rcases hkind with rfl | rfl | rfl | rfl | rfl | rfl | rfl <;> exact ⟨_, _, _, by decide, rfl⟩

theorem leavesAt_check_geometryObject (h : geometryObject.accepts (.object entries) = false) :
    leavesAt (path ++ [.key "type"]) (geometryObject.check (.object entries) path failFast) =
      geometryTags.flatMap (typeIssues (path ++ [.key "type"]) (entries.lookup "type")) := by
  have hopened : geometryObject.opened .union = geometries.map schema := rfl
  have htags : geometryTags = geometries.map ObjectKind.tag := rfl
  rw [leavesAt_check_opened (by decide) h, hopened, htags, List.flatMap_map, List.flatMap_map]
  refine List.flatMap_congr fun kind hkind => ?_
  obtain ⟨key, s, label, hkey, hschema⟩ := exists_boxed_of_geometry hkind
  rw [hschema]
  exact leavesAt_check_boxed kind.tag label (List.forall_mem_singleton.mpr hkey)

theorem typeIssues_none (place : Path) (types : List String) :
    types.flatMap (typeIssues place none) =
      types.map fun type => .refusal place (quoted type) .missingField .null := by
  rw [List.map_eq_flatMap]
  rfl

theorem typeIssues_some (place : Path) (w : Value) (types : List String) :
    types.flatMap (typeIssues place (some w)) =
      (types.filter fun type => !(Grammar.tag type).accepts w).map fun type =>
        .refusal place (quoted type) .tagMismatch w := by
  induction types with
  | nil => rfl
  | cons type rest ih =>
    rw [List.flatMap_cons, ih, List.filter_cons, typeIssues]
    cases (Grammar.tag type).accepts w <;> rfl

/-- A refused geometry is told each type that it does not have, once and in order. -/
theorem type_leaves_of_refused_geometry {entries : List (String × Value)}
    (h : geometryObject.accepts (.object entries) = false) (path : Path) (failFast : Bool) :
    let place := path ++ [.key "type"]
    let found := leavesAt place (geometryObject.check (.object entries) path failFast)
    (entries.lookup "type" = none → found.length = 7 ∧
      found = geometryTags.map fun type => .refusal place (quoted type) .missingField .null) ∧
    (∀ w, entries.lookup "type" = some w → (∀ type ∈ geometryTags, w ≠ .text type) →
      found.length = 7 ∧
        found = geometryTags.map fun type => .refusal place (quoted type) .tagMismatch w) ∧
    ∀ type ∈ geometryTags, entries.lookup "type" = some (.text type) →
      found.length = 6 ∧
        found = (geometryTags.erase type).map fun other =>
          .refusal place (quoted other) .tagMismatch (.text type) := by
  intro place found
  have hfound : found = geometryTags.flatMap (typeIssues place (entries.lookup "type")) :=
    leavesAt_check_geometryObject h
  refine ⟨fun hnone => ?_, fun w hw hother => ?_, fun type htype hlookup => ?_⟩
  · rw [hfound, hnone, typeIssues_none]
    exact ⟨rfl, rfl⟩
  · have hall : (geometryTags.filter fun type => !(Grammar.tag type).accepts w) = geometryTags := by
      rw [List.filter_eq_self]
      intro type htype
      rw [Bool.not_eq_true', ← Bool.not_eq_true, recognizes_tag type w]
      exact hother type htype
    rw [hfound, hw, typeIssues_some, hall]
    exact ⟨rfl, rfl⟩
  · have hothers : (geometryTags.filter fun other => !(Grammar.tag other).accepts (.text type)) =
        geometryTags.erase type := by
      rw [List.Nodup.erase_eq_filter (by decide)]
      refine List.filter_congr fun other _ => ?_
      have htag : (Grammar.tag other).accepts (.text type) ↔ Value.text type = .text other :=
        recognizes_tag other _
      rw [Bool.eq_iff_iff, Bool.not_eq_true', ← Bool.not_eq_true, htag, Value.text.injEq, bne_iff_ne,
        ne_comm]
    rw [hfound, hlookup, typeIssues_some, hothers, List.length_map, List.length_erase_of_mem htype]
    exact ⟨rfl, rfl⟩

theorem type_leaves_of_refused_geometry_collection :
    leavesAt [.key "geometry", .key "type"]
        (geometryObject.check (.object [("type", .text "GeometryCollection")]) [.key "geometry"] false) =
      (["Point", "MultiPoint", "LineString", "MultiLineString", "Polygon", "MultiPolygon"].map fun type =>
        .refusal [.key "geometry", .key "type"] (quoted type) .tagMismatch (.text "GeometryCollection")) ∧
    (leavesAt [.key "type"] (geometryObject.check (.object [("type", .null)]) [] true)).length = 7 := by
  constructor
  · have hrefused : geometryObject.accepts (.object [("type", .text "GeometryCollection")]) = false := by
      decide
    obtain ⟨_, _, hknown⟩ := type_leaves_of_refused_geometry hrefused [.key "geometry"] false
    exact (hknown "GeometryCollection" (by decide) rfl).2
  · have hrefused : geometryObject.accepts (.object [("type", .null)]) = false := by decide
    obtain ⟨_, hunknown, _⟩ := type_leaves_of_refused_geometry hrefused [] true
    exact (hunknown .null rfl (by simp)).1

end Grammar

end GeoSchema
