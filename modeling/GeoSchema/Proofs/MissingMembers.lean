import GeoSchema.Proofs.ObjectReports

/-!
# Missing members

A full report tells of every member that a required field asks for and the object lacks. What is missing
below a union stays among its causes, so that a report of a collection names, at the top, what is missing
in the collection and in its features, and nothing else.
-/

namespace GeoSchema

/-! ## What a report says is missing -/

/-- Where these issues, without their causes, tell a field to be missing. -/
def missingPaths (issues : List Issue) : List Path :=
  (issues.filter (·.kind = .missingField)).map (·.path)

/-- The places of the keys that the object lacks. -/
def lackingAt (path : Path) (members : List (String × Value)) (keys : List String) : List Path :=
  (keys.filter fun key => (members.lookup key).isNone).map fun key => path ++ [.key key]

theorem missingPaths_flatMap {α : Type} (issuesOf : α → List Issue) (parts : List α) :
    missingPaths (parts.flatMap issuesOf) = parts.flatMap fun part => missingPaths (issuesOf part) := by
  unfold missingPaths
  rw [List.filter_flatMap, List.map_flatMap]

theorem lackingAt_cons (path : Path) (members : List (String × Value)) (key : String) (keys : List String) :
    lackingAt path members (key :: keys) = lackingAt path members [key] ++ lackingAt path members keys := by
  unfold lackingAt
  rw [← List.singleton_append, List.filter_append, List.map_append]

theorem mem_lackingAt_iff {path place : Path} {members : List (String × Value)} {keys : List String} :
    place ∈ lackingAt path members keys ↔
      ∃ key ∈ keys, members.lookup key = none ∧ place = path ++ [.key key] := by
  unfold lackingAt
  simp only [List.mem_map, List.mem_filter, Option.isNone_iff_eq_none, and_assoc]
  exact exists_congr fun key => and_congr_right fun _ => and_congr_right fun _ => eq_comm

/-! ## What schemas say is missing -/

namespace Schema

variable {s item : Schema} {v : Value} {path : Path} {entries : List (String × Value)}
  {label : Option String}

def MissesNothing (s : Schema) : Prop := ∀ v path, missingPaths (s.check v path false) = []

theorem missingPaths_check_of_refuses {kind : IssueKind} (h : s.Refuses v kind) :
    missingPaths (s.check v path false) = [] := by
  rw [check_of_refuses path false h]
  cases h <;> rfl

theorem missesNothing_primitive (p : Primitive) : (primitive p).MissesNothing := by
  intro v path
  rcases accepts_or_refuses p v with h | ⟨_, h⟩
  · rw [check_primitive path false h]
    rfl
  · exact missingPaths_check_of_refuses h

theorem missesNothing_literal (c : Constant) (label : Option String) : (literal c label).MissesNothing := by
  intro v path
  rcases strictlyEquals_or_refuses c label v with h | ⟨_, h⟩
  · rw [check_literal path false h]
    rfl
  · exact missingPaths_check_of_refuses h

/-- Whatever is missing in the alternatives is a cause of the one issue of the union. -/
theorem missesNothing_union (alternatives : List Schema) (label : Option String) :
    (union alternatives label).MissesNothing := by
  intro v path
  rcases clean_or_refused alternatives v path false with h | h
  · rw [check_union_of_clean path false h]
    rfl
  · rw [check_union_of_refused path false h]
    rfl

theorem missingPaths_check_array :
    missingPaths (check (.array false item label) v path false) =
      (v.elements?.getD []).zipIdx.flatMap fun e =>
        missingPaths (item.check e.1 (path ++ [.index e.2]) false) := by
  cases hv : v.elements? with
  | none => exact missingPaths_check_of_refuses (.array hv)
  | some elements =>
    rw [check_array path false hv (by simp), gatherUntil_eq_flatMap fun _ _ => rfl, missingPaths_flatMap]
    rfl

theorem MissesNothing.array (h : item.MissesNothing) (label : Option String) :
    (Schema.array false item label).MissesNothing := by
  intro v path
  rw [missingPaths_check_array, List.flatMap_eq_nil_iff]
  exact fun e _ => h e.1 _

theorem missingPaths_fieldIssues {required : Bool} {f : String × Schema} :
    missingPaths (fieldIssues required entries path false f) =
      match entries.lookup f.1 with
      | some w => missingPaths (f.2.check w (path ++ [.key f.1]) false)
      | none => if required then [path ++ [.key f.1]] else [] := by
  unfold fieldIssues
  cases entries.lookup f.1 with
  | some w => rfl
  | none => cases required <;> rfl

theorem missingPaths_required {f : String × Schema} (h : f.2.MissesNothing) :
    missingPaths (fieldIssues true entries path false f) = lackingAt path entries [f.1] := by
  rw [missingPaths_fieldIssues]
  cases hlookup : entries.lookup f.1 with
  | none => simp [lackingAt, hlookup]
  | some w => simp [lackingAt, hlookup, h w]

theorem missingPaths_optional {f : String × Schema} (h : f.2.MissesNothing) :
    missingPaths (fieldIssues false entries path false f) = [] := by
  rw [missingPaths_fieldIssues]
  cases entries.lookup f.1 with
  | none => rfl
  | some w => exact h w _

theorem missingPaths_check_object (hs : s.DescribesObjects)
    (h : ∀ f ∈ s.declared, f.content.MissesNothing) :
    missingPaths (s.check (.object entries) path false) =
      lackingAt path entries ((s.declared.filter (·.required)).map (·.key)) := by
  rw [check_full_eq_flatMap_declared hs, missingPaths_flatMap]
  generalize s.declared = declared at h ⊢
  induction declared with
  | nil => rfl
  | cons f rest ih =>
    obtain ⟨hf, hrest⟩ := List.forall_mem_cons.mp h
    rw [List.flatMap_cons, ih hrest, List.filter_cons]
    cases hrequired : f.required with
    | false => rw [missingPaths_optional hf]; rfl
    | true =>
      rw [missingPaths_required hf, if_pos rfl, List.map_cons, ← lackingAt_cons]

end Schema

/-! ## Collections -/

namespace Grammar

open Schema Value

variable {entries : List (String × Value)} {path : Path}

theorem missesNothing_boundingBox : boundingBox.MissesNothing := (missesNothing_primitive _).array _

def lackingInFeature (path : Path) (v : Value) : List Path :=
  match v.members? with
  | some members => lackingAt path members ["type", "geometry", "properties"]
  | none => []

theorem missingPaths_check_feature (v : Value) :
    missingPaths (feature.check v path false) = lackingInFeature path v := by
  unfold lackingInFeature
  cases hv : v.members? with
  | none =>
    obtain ⟨expected, hcheck⟩ : ∃ expected,
        feature.check v path false = [.refusal path expected .shapeMismatch v] :=
      check_of_members?_none (describesObjects_featureWith properties "FeatureIO") hv
    rw [hcheck]
    rfl
  | some members =>
    obtain rfl := members?_eq_some_iff.mp hv
    unfold feature
    rw [missingPaths_check_object (describesObjects_featureWith _ _), declared_featureWith]
    · rfl
    · rw [declared_featureWith]
      simp only [List.forall_mem_cons, List.not_mem_nil, false_implies, implies_true, and_true]
      exact ⟨missesNothing_literal _ _, missesNothing_union _ _, missesNothing_union _ _,
        missesNothing_union _ _, missesNothing_boundingBox⟩

def featuresOf (entries : List (String × Value)) : List Value :=
  ((entries.lookup "features").bind elements?).getD []

theorem missingPaths_check_featureCollection :
    missingPaths (featureCollection.check (.object entries) path false) =
      lackingAt path entries ["type", "features"] ++
        (featuresOf entries).zipIdx.flatMap fun e =>
          lackingInFeature (path ++ [Segment.key "features"] ++ [Segment.index e.2]) e.1 := by
  have htype : missingPaths (fieldIssues true entries path false ("type", tag "FeatureCollection")) =
      lackingAt path entries ["type"] := missingPaths_required (missesNothing_literal _ _)
  have hbox : missingPaths (fieldIssues false entries path false ("bbox", boundingBox)) = [] :=
    missingPaths_optional missesNothing_boundingBox
  have hfeatures : missingPaths (fieldIssues true entries path false ("features", array feature)) =
      lackingAt path entries ["features"] ++ (featuresOf entries).zipIdx.flatMap fun e =>
        lackingInFeature (path ++ [Segment.key "features"] ++ [Segment.index e.2]) e.1 := by
    rw [missingPaths_fieldIssues, featuresOf]
    cases hlookup : entries.lookup "features" with
    | none => simp [lackingAt, hlookup]
    | some w =>
      unfold array
      simp only [missingPaths_check_array, missingPaths_check_feature]
      simp [lackingAt, hlookup]
  rw [check_full_eq_flatMap_declared describesObjects_featureCollection, missingPaths_flatMap,
    declared_featureCollection]
  simp only [List.flatMap_cons, List.flatMap_nil]
  rw [htype, hfeatures, hbox, lackingAt_cons path entries "type" ["features"], List.append_nil,
    List.append_nil, List.append_assoc]

theorem mem_missing_iff {place : Path} :
    place ∈ missingPaths (featureCollection.check (.object entries) path false) ↔
      (∃ key ∈ ["type", "features"], entries.lookup key = none ∧ place = path ++ [.key key]) ∨
        ∃ (i : Nat) (members : List (String × Value)), (featuresOf entries)[i]? = some (.object members) ∧
          ∃ key ∈ ["type", "geometry", "properties"], members.lookup key = none ∧
            place = path ++ [Segment.key "features"] ++ [Segment.index i] ++ [Segment.key key] := by
  rw [missingPaths_check_featureCollection, List.mem_append, mem_lackingAt_iff, List.mem_flatMap]
  refine or_congr_right ?_
  constructor
  · rintro ⟨⟨v, i⟩, he, hplace⟩
    rw [List.mem_zipIdx_iff_getElem?] at he
    unfold lackingInFeature at hplace
    split at hplace
    · rename_i members hv
      rw [members?_eq_some_iff.mp hv] at he
      exact ⟨i, members, he, mem_lackingAt_iff.mp hplace⟩
    · exact absurd hplace List.not_mem_nil
  · rintro ⟨i, members, he, hplace⟩
    refine ⟨(.object members, i), List.mem_zipIdx_iff_getElem?.mpr he, ?_⟩
    unfold lackingInFeature
    rw [members?_object]
    exact mem_lackingAt_iff.mpr hplace

theorem not_missing_of_lookup {key : String} {w : Value} (h : entries.lookup key = some w) :
    path ++ [.key key] ∉ missingPaths (featureCollection.check (.object entries) path false) := by
  intro hmem
  rcases mem_missing_iff.mp hmem with ⟨other, _, hnone, hplace⟩ | ⟨i, members, _, other, _, _, hplace⟩
  · obtain rfl : key = other := by simpa using hplace
    rw [hnone] at h
    cases h
  · -- The place of a member of a feature is a longer path.
    have hlength := congrArg List.length hplace
    simp at hlength

theorem not_missing_of_feature_lookup {i : Nat} {members : List (String × Value)} {key : String} {w : Value}
    (hfeature : (featuresOf entries)[i]? = some (.object members)) (h : members.lookup key = some w) :
    path ++ [Segment.key "features"] ++ [Segment.index i] ++ [Segment.key key] ∉
      missingPaths (featureCollection.check (.object entries) path false) := by
  intro hmem
  rcases mem_missing_iff.mp hmem with ⟨other, _, _, hplace⟩ | ⟨j, others, hother, other, _, hnone, hplace⟩
  · have hlength := congrArg List.length hplace
    simp at hlength
  · obtain ⟨rfl, rfl⟩ : i = j ∧ key = other := by simpa using hplace
    rw [hfeature, Option.some.injEq] at hother
    rw [object_injective hother, hnone] at h
    cases h

/-- What a full report tells at the top to be missing, in order. -/
theorem missing_members_reported_exactly (entries : List (String × Value)) (path : Path) :
    missingPaths (featureCollection.check (.object entries) path false) =
      lackingAt path entries ["type", "features"] ++
        ((featuresOf entries).zipIdx.flatMap fun e =>
          lackingInFeature (path ++ [Segment.key "features"] ++ [Segment.index e.2]) e.1) ∧
    (∀ key w, entries.lookup key = some w →
      path ++ [.key key] ∉ missingPaths (featureCollection.check (.object entries) path false)) ∧
    ∀ (i : Nat) members key w, (featuresOf entries)[i]? = some (.object members) →
      members.lookup key = some w →
        path ++ [Segment.key "features"] ++ [Segment.index i] ++ [Segment.key key] ∉
          missingPaths (featureCollection.check (.object entries) path false) :=
  ⟨missingPaths_check_featureCollection, fun _ _ => not_missing_of_lookup,
    fun _ _ _ _ => not_missing_of_feature_lookup⟩

theorem missing_members_reported_exactly_among_defects :
    let second := [("geometry", .object [("type", .text "Point")]), ("type", .null)]
    let found := missingPaths
      (featureCollection.check
        (.object [("features", .list [.null, .object second]), ("bbox", .int 0)]) [] false)
    found = [[.key "type"], [.key "features", .index 1, .key "properties"]] ∧
      [.key "features", .index 1, .key "type"] ∉ found := by
  intro second found
  obtain ⟨hfound, _, hpresent⟩ := missing_members_reported_exactly
    [("features", .list [.null, .object second]), ("bbox", .int 0)] []
  exact ⟨hfound, hpresent 1 second "type" .null rfl rfl⟩

end Grammar

end GeoSchema
