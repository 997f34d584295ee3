import GeoSchema.Proofs.ForeignMembers
import GeoSchema.Proofs.NewMembers
import GeoSchema.Proofs.ObjectReports
import GeoSchema.Schema.Typed

/-!
# Features with properties of one's own

The schema of the properties decides what is reported under their key, and nothing else. Whatever it
reports there, the other members of a feature are reported as in a feature of the grammar.
-/

namespace GeoSchema

/-! ## The issues of one member -/

namespace Issue

def under (place : Path) (issues : List Issue) : List Issue :=
  issues.filter fun issue => place <+: issue.path

def elsewhere (place : Path) (issues : List Issue) : List Issue :=
  issues.filter fun issue => ¬ place <+: issue.path

variable {place : Path} {before issues after : List Issue}

theorem under_append (issues more : List Issue) :
    under place (issues ++ more) = under place issues ++ under place more :=
  List.filter_append ..

theorem elsewhere_append (issues more : List Issue) :
    elsewhere place (issues ++ more) = elsewhere place issues ++ elsewhere place more :=
  List.filter_append ..

theorem under_of_forall (h : ∀ issue ∈ issues, place <+: issue.path) :
    under place issues = issues ∧ elsewhere place issues = [] := by
  unfold under elsewhere
  rw [List.filter_eq_self, List.filter_eq_nil_iff]
  simpa using h

theorem elsewhere_of_forall (h : ∀ issue ∈ issues, ¬ place <+: issue.path) :
    under place issues = [] ∧ elsewhere place issues = issues := by
  unfold under elsewhere
  rw [List.filter_eq_self, List.filter_eq_nil_iff]
  simpa using h

theorem under_between (hunder : ∀ issue ∈ issues, place <+: issue.path)
    (helsewhere : ∀ issue ∈ before ++ after, ¬ place <+: issue.path) :
    under place (before ++ issues ++ after) = issues ∧
      elsewhere place (before ++ issues ++ after) = before ++ after := by
  obtain ⟨hbefore, hafter⟩ := List.forall_mem_append.mp helsewhere
  simp only [under_append, elsewhere_append, under_of_forall hunder, elsewhere_of_forall hbefore,
    elsewhere_of_forall hafter, List.nil_append, List.append_nil, and_self]

end Issue

namespace Grammar

open Schema Value Issue

variable {entries : List (String × Value)} {path : Path} {chosen : Schema} {label : Option String}

/-- The issues of the members of a feature before its properties. -/
def issuesBefore (entries : List (String × Value)) (path : Path) : List Issue :=
  fieldIssues true entries path false ("type", tag "Feature") ++
    fieldIssues true entries path false ("geometry", featureGeometry)

def issuesAfter (entries : List (String × Value)) (path : Path) : List Issue :=
  fieldIssues false entries path false ("id", featureId) ++
    fieldIssues false entries path false ("bbox", boundingBox)

theorem check_featureWith (chosen : Schema) (label : Option String) :
    (featureWith chosen label).check (.object entries) path false =
      issuesBefore entries path ++ fieldIssues true entries path false ("properties", chosen) ++
        issuesAfter entries path := by
  rw [check_full_eq_flatMap_declared (describesObjects_featureWith chosen label), declared_featureWith]
  simp only [List.flatMap_cons, List.flatMap_nil]
  rw [issuesBefore, issuesAfter, List.append_nil, List.append_assoc, List.append_assoc]

theorem elsewhere_of_mem_frame {issue : Issue}
    (h : issue ∈ issuesBefore entries path ++ issuesAfter entries path) :
    ¬ path ++ [.key "properties"] <+: issue.path := by
  unfold issuesBefore issuesAfter at h
  simp only [List.mem_append, or_assoc] at h
  rcases h with h | h | h | h <;> exact not_prefix_of_inForest_fieldIssues (by decide) (.top h)

theorem fieldIssues_set {key : String} {content : Value} {required : Bool} {f : String × Schema}
    (hkey : f.1 ≠ key) :
    fieldIssues required (Variables.set key content entries) path false f =
      fieldIssues required entries path false f := by
  apply fieldIssues_eq_of_lookup_eq
  rw [Variables.lookup_set, if_neg hkey]

/-- What stands under the properties plays no part in the rest. -/
theorem frame_set (entries : List (String × Value)) (path : Path) (content : Value) :
    issuesBefore (Variables.set "properties" content entries) path = issuesBefore entries path ∧
      issuesAfter (Variables.set "properties" content entries) path = issuesAfter entries path := by
  unfold issuesBefore issuesAfter
  constructor
  · rw [fieldIssues_set (by decide), fieldIssues_set (by decide)]
  · rw [fieldIssues_set (by decide), fieldIssues_set (by decide)]

theorem accepts_featureWith_iff :
    (featureWith chosen label).accepts (.object entries) ↔
      (issuesBefore entries [] = [] ∧ issuesAfter entries [] = []) ∧
        ∃ w, entries.lookup "properties" = some w ∧ chosen.accepts w := by
  have hproperties : fieldIssues true entries [] false ("properties", chosen) = [] ↔
      ∃ w, entries.lookup "properties" = some w ∧ chosen.accepts w := by
    rw [fieldIssues_eq_nil_iff]
    simp only [check_eq_nil_iff_accepts]
    cases entries.lookup "properties" <;> simp
  have hcheck : (featureWith chosen label).check (.object entries) [] false = [] ↔
      (featureWith chosen label).accepts (.object entries) := check_eq_nil_iff_accepts
  rw [← hcheck, check_featureWith, List.append_eq_nil_iff, List.append_eq_nil_iff, hproperties]
  exact and_right_comm

theorem accepts_featureWith_iff_feature :
    (featureWith chosen label).accepts (.object entries) ↔
      feature.accepts ((object entries).withMember "properties" .null) ∧
        ∃ w, entries.lookup "properties" = some w ∧ chosen.accepts w := by
  -- The grammar lets the properties be `null`, so that only the rest of the feature decides.
  have hnull : properties.accepts .null := by decide
  have hset : ∃ w, (Variables.set "properties" .null entries).lookup "properties" = some w ∧
      properties.accepts w := ⟨.null, by rw [Variables.lookup_set, if_pos rfl], hnull⟩
  obtain ⟨hbefore, hafter⟩ := frame_set entries [] .null
  rw [withMember_object, feature, accepts_featureWith_iff, accepts_featureWith_iff, hbefore, hafter,
    and_iff_left hset]

theorem schema_featureWith (typed : TypedSchema) (label : Option String) (mark : Nat) (memory : Memory) :
    (typed.featureWith label mark memory).1.schema = featureWith typed.schema label := by
  unfold TypedSchema.featureWith
  simp only [TypedSchema.intersection_schema, TypedSchema.schemas]
  rfl

theorem report_featureWith (chosen : Schema) (label : Option String) :
    under (path ++ [.key "properties"]) ((featureWith chosen label).check (.object entries) path false) =
        fieldIssues true entries path false ("properties", chosen) ∧
      elsewhere (path ++ [.key "properties"])
          ((featureWith chosen label).check (.object entries) path false) =
        issuesBefore entries path ++ issuesAfter entries path := by
  rw [check_featureWith]
  exact under_between (fun _ => prefix_of_mem_fieldIssues) fun _ => elsewhere_of_mem_frame

/-- Whatever its properties have to be, the rest of a feature is reported alike. -/
theorem featureWith_differs_in_properties (entries : List (String × Value)) (path : Path) (chosen : Schema)
    (label : Option String) :
    let place := path ++ [.key "properties"]
    let report := (featureWith chosen label).check (.object entries) path false
    elsewhere place report = elsewhere place (feature.check (.object entries) path false) ∧
    (under place report =
      match entries.lookup "properties" with
      | some w => chosen.check w place false
      | none => [.refusal place chosen.name .missingField .null]) ∧
    (∃ before after, report = before ++ under place report ++ after ∧
      elsewhere place report = before ++ after) ∧
    ((featureWith chosen label).accepts (.object entries) ↔
      feature.accepts ((object entries).withMember "properties" .null) ∧
        ∃ w, entries.lookup "properties" = some w ∧ chosen.accepts w) ∧
    ∀ (typed : TypedSchema) mark memory,
      (typed.featureWith label mark memory).1.schema = featureWith typed.schema label := by
  intro place report
  obtain ⟨hunder, helsewhere⟩ : under place report = _ ∧ elsewhere place report = _ :=
    report_featureWith chosen label
  have hfeature : elsewhere place (feature.check (.object entries) path false) = _ :=
    (report_featureWith properties "FeatureIO").2
  refine ⟨?_, ?_, ⟨issuesBefore entries path, issuesAfter entries path, ?_, helsewhere⟩,
    accepts_featureWith_iff_feature, fun typed => schema_featureWith typed label⟩
  · rw [helsewhere, hfeature]
  · rw [hunder]
    rfl
  · rw [hunder]
    exact check_featureWith chosen label

end Grammar

end GeoSchema
