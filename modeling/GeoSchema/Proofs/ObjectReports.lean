import GeoSchema.Proofs.Separation

/-!
# What is reported of an object

An object is reported field by field, and everything about a field stands under its key. A full report
leaves out no field that a schema declares, whatever is wrong with the others.
-/

namespace GeoSchema

theorem gatherUntil_eq_flatMap {α : Type} {stop : List Issue → Bool} {issuesOf : α → List Issue}
    {parts : List α} (h : ∀ part ∈ parts, stop (issuesOf part) = false) :
    gatherUntil stop issuesOf parts = parts.flatMap issuesOf := by
  induction parts with
  | nil => rfl
  | cons part rest ih =>
    obtain ⟨hpart, hrest⟩ := List.forall_mem_cons.mp h
    rw [gatherUntil, hpart, ih hrest, List.flatMap_cons]
    rfl

/-! ## Where issues stand -/

namespace Issue

theorem InForest.exists_relocated {issue : Issue} {issues : List Issue} {before : Path}
    (h : issue.InForest (issues.map (relocate before))) :
    ∃ bare : Issue, issue = bare.relocate before := by
  generalize hmoved : issues.map (relocate before) = moved at h
  induction h generalizing issues with
  | top h =>
    rw [← hmoved] at h
    obtain ⟨bare, _, rfl⟩ := List.mem_map.mp h
    exact ⟨bare, rfl⟩
  | cause hparent _ ih =>
    rw [← hmoved] at hparent
    obtain ⟨⟨path, expected, kind, value, causes⟩, _, rfl⟩ := List.mem_map.mp hparent
    exact ih (by rw [relocate_mk])

end Issue

namespace Schema

open Issue

variable {s : Schema} {entries : List (String × Value)} {path : Path} {failFast : Bool} {issue : Issue}

theorem prefix_of_inForest_check {v : Value} (h : issue.InForest (s.check v path failFast)) :
    path <+: issue.path := by
  have hcheck := check_append_path path [] s v failFast
  rw [List.append_nil] at hcheck
  rw [hcheck] at h
  obtain ⟨bare, rfl⟩ := h.exists_relocated
  rw [relocate_path]
  exact List.prefix_append _ _

theorem prefix_of_inForest_fieldIssues {required : Bool} {f : String × Schema}
    (h : issue.InForest (fieldIssues required entries path failFast f)) :
    path ++ [.key f.1] <+: issue.path := by
  unfold fieldIssues at h
  split at h
  · exact prefix_of_inForest_check h
  · split at h
    · rw [inForest_refusal_iff.mp h]
      exact List.prefix_refl _
    · exact absurd h not_inForest_nil

theorem not_prefix_of_inForest_fieldIssues {required : Bool} {f : String × Schema} {key : String}
    (hkey : f.1 ≠ key) (h : issue.InForest (fieldIssues required entries path failFast f)) :
    ¬ path ++ [.key key] <+: issue.path := by
  have hne : Segment.key key ≠ Segment.key f.1 := by simpa using hkey.symm
  exact not_prefix_of_segment_ne hne (List.prefix_refl _) (prefix_of_inForest_fieldIssues h)

/-! ## Full reports -/

theorem wrongShapeAt_check_object (hs : s.DescribesObjects) :
    wrongShapeAt path (s.check (.object entries) path failFast) = false := by
  unfold wrongShapeAt
  rw [List.any_eq_false]
  intro issue hissue
  obtain ⟨key, _, hprefix⟩ := exists_key_of_mem_check hs hissue
  have hne : issue.path ≠ path := by
    intro hsame
    have hlength := hprefix.length_le
    rw [hsame, List.length_append, List.length_singleton] at hlength
    omega
  simp [hne]

theorem check_full_eq_flatMap_declared (hs : s.DescribesObjects) :
    s.check (.object entries) path false =
      s.declared.flatMap fun f => fieldIssues f.required entries path false (f.key, f.content) := by
  induction hs with
  | object required fields label =>
    rw [check_object path false (Value.members?_object entries), gatherUntil_eq_flatMap fun _ _ => rfl,
      declared, List.flatMap_map]
  | intersection label _ hobjects ih =>
    rw [check_intersection, declared_intersection, List.flatMap_assoc, gatherUntil_eq_flatMap]
    · exact List.flatMap_congr ih
    · intro m hm
      unfold stopsMembers
      rw [wrongShapeAt_check_object (hobjects m hm)]
      rfl

end Schema

/-! ## Features and their collections -/

namespace Grammar

open Schema

theorem describesObjects_featureWith (chosen : Schema) (label : Option String) :
    (featureWith chosen label).DescribesObjects :=
  .pair (.object true _ none) (.object false _ none) _

theorem declared_featureWith (chosen : Schema) (label : Option String) :
    (featureWith chosen label).declared =
      [⟨"type", true, tag "Feature"⟩, ⟨"geometry", true, featureGeometry⟩,
        ⟨"properties", true, chosen⟩, ⟨"id", false, featureId⟩, ⟨"bbox", false, boundingBox⟩] := rfl

theorem describesObjects_featureCollection : featureCollection.DescribesObjects :=
  .pair (.object true _ none) (.object false _ none) _

theorem declared_featureCollection :
    featureCollection.declared = [⟨"type", true, tag "FeatureCollection"⟩,
      ⟨"features", true, array feature⟩, ⟨"bbox", false, boundingBox⟩] := rfl

end Grammar

end GeoSchema
