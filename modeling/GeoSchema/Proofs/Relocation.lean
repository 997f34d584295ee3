import GeoSchema.Proofs.Gather
import Mathlib.Data.List.Basic

/-!
# Where a check starts

The path at which a check starts stands in front of the path of every issue and of every cause, and
it changes nothing else. So a value is reported in the same way wherever it stands.
-/

namespace GeoSchema

/-! ## Issues under another path -/

namespace Issue

mutual

/-- More steps in front of the path, in causes too. -/
def relocate (before : Path) : Issue → Issue
  | ⟨path, expected, kind, value, causes⟩ =>
    ⟨before ++ path, expected, kind, value, relocateAll before causes⟩

def relocateAll (before : Path) : List Issue → List Issue
  | [] => []
  | issue :: rest => issue.relocate before :: relocateAll before rest

end

variable (before : Path)

theorem relocateAll_eq_map (issues : List Issue) :
    relocateAll before issues = issues.map (relocate before) := by
  induction issues with
  | nil => rfl
  | cons issue rest ih => rw [relocateAll, ih, List.map_cons]

@[simp] theorem relocate_path (issue : Issue) : (issue.relocate before).path = before ++ issue.path := by
  obtain ⟨path, expected, kind, value, causes⟩ := issue
  rfl

@[simp] theorem relocate_kind (issue : Issue) : (issue.relocate before).kind = issue.kind := by
  obtain ⟨path, expected, kind, value, causes⟩ := issue
  rfl

@[simp] theorem relocate_mk (path : Path) (expected : String) (kind : IssueKind) (value : Value)
    (causes : List Issue) :
    relocate before ⟨path, expected, kind, value, causes⟩ =
      ⟨before ++ path, expected, kind, value, causes.map (relocate before)⟩ := by
  rw [relocate, relocateAll_eq_map]

@[simp] theorem relocate_refusal (path : Path) (expected : String) (kind : IssueKind) (v : Value) :
    (refusal path expected kind v).relocate before = refusal (before ++ path) expected kind v := by
  rw [refusal, relocate_mk, List.map_nil]
  rfl

end Issue

/-! ## Loops over relocated issues -/

theorem gatherUntil_map {α : Type} {stop stop' : List Issue → Bool} {issuesOf issuesOf' : α → List Issue}
    {change : Issue → Issue} {parts : List α}
    (hstop : ∀ found, stop' (found.map change) = stop found)
    (hparts : ∀ part ∈ parts, issuesOf' part = (issuesOf part).map change) :
    gatherUntil stop' issuesOf' parts = (gatherUntil stop issuesOf parts).map change := by
  induction parts with
  | nil => rfl
  | cons part rest ih =>
    have hpart := hparts part List.mem_cons_self
    have hrest := ih fun p hp => hparts p (List.mem_cons_of_mem _ hp)
    rw [gatherUntil, gatherUntil, hpart, hstop, hrest]
    split
    · rfl
    · rw [List.map_append]

namespace Schema

open Issue

variable (before path : Path)

theorem stopsEarly_map (failFast : Bool) (found : List Issue) :
    stopsEarly failFast (found.map (relocate before)) = stopsEarly failFast found := by
  unfold stopsEarly
  rw [List.isEmpty_map]

theorem wrongShapeAt_map (found : List Issue) :
    wrongShapeAt (before ++ path) (found.map (relocate before)) = wrongShapeAt path found := by
  unfold wrongShapeAt
  rw [List.any_map]
  congr 1
  funext issue
  simp only [Function.comp_apply, relocate_path, relocate_kind, List.append_cancel_left_eq]

theorem stopsMembers_map (failFast : Bool) (found : List Issue) :
    stopsMembers (before ++ path) failFast (found.map (relocate before)) =
      stopsMembers path failFast found := by
  unfold stopsMembers
  rw [stopsEarly_map, wrongShapeAt_map]

theorem check_relocates_of_refuses {s : Schema} {v : Value} {kind : IssueKind} (failFast : Bool)
    (h : s.Refuses v kind) :
    s.check v (before ++ path) failFast = (s.check v path failFast).map (relocate before) := by
  rw [check_of_refuses _ failFast h, check_of_refuses _ failFast h, List.map_singleton,
    relocate_refusal]

theorem fieldIssues_relocates {required : Bool} {members : List (String × Value)} {failFast : Bool}
    {f : String × Schema}
    (ih : ∀ w, f.2.check w (before ++ (path ++ [.key f.1])) failFast =
      (f.2.check w (path ++ [.key f.1]) failFast).map (relocate before)) :
    fieldIssues required members (before ++ path) failFast f =
      (fieldIssues required members path failFast f).map (relocate before) := by
  unfold fieldIssues
  rw [List.append_assoc]
  cases members.lookup f.1 with
  | some w => exact ih w
  | none => cases required <;> simp

/-! ## A check at another place -/

theorem check_append_path (s : Schema) (v : Value) (failFast : Bool) :
    s.check v (before ++ path) failFast = (s.check v path failFast).map (relocate before) := by
  induction s generalizing v path with
  | primitive p =>
    rcases accepts_or_refuses p v with h | ⟨_, h⟩
    · rw [check_primitive _ failFast h, check_primitive _ failFast h, List.map_nil]
    · exact check_relocates_of_refuses before path failFast h
  | literal c label =>
    rcases strictlyEquals_or_refuses c label v with h | ⟨_, h⟩
    · rw [check_literal _ failFast h, check_literal _ failFast h, List.map_nil]
    · exact check_relocates_of_refuses before path failFast h
  | tuple items label ih =>
    rcases elements_or_refuses_tuple items label v with ⟨elements, hv, hlen⟩ | ⟨_, h⟩
    · rw [check_tuple _ failFast hv hlen, check_tuple _ failFast hv hlen]
      refine gatherUntil_map (stopsEarly_map before true) fun part hpart => ?_
      have hitem : part.1.1 ∈ items :=
        (List.of_mem_zip (List.fst_mem_of_mem_zipIdx hpart)).1
      unfold elementIssues
      rw [List.append_assoc]
      exact ih part.1.1 hitem _ part.1.2
    · exact check_relocates_of_refuses before path failFast h
  | array nonEmpty item label ih =>
    rcases elements_or_refuses_array nonEmpty item label v with ⟨elements, hv, hne⟩ | ⟨_, h⟩
    · rw [check_array _ failFast hv hne, check_array _ failFast hv hne]
      refine gatherUntil_map (stopsEarly_map before failFast) fun e _ => ?_
      rw [List.append_assoc]
      exact ih _ e.1
    · exact check_relocates_of_refuses before path failFast h
  | dictionary key value label ihkey ihvalue =>
    rcases entries_or_refuses key value label v with ⟨entries, hv⟩ | ⟨_, h⟩
    · rw [check_dictionary _ failFast hv, check_dictionary _ failFast hv]
      refine gatherUntil_map (stopsEarly_map before failFast) fun e _ => ?_
      unfold entryIssues
      rw [List.append_assoc, List.map_append, ihkey _ e.1, ihvalue _ e.2]
    · exact check_relocates_of_refuses before path failFast h
  | object required fields label ih =>
    rcases members_or_refuses required fields label v with ⟨members, hv⟩ | ⟨_, h⟩
    · rw [check_object _ failFast hv, check_object _ failFast hv]
      refine gatherUntil_map (stopsEarly_map before failFast) fun f hf => ?_
      exact fieldIssues_relocates before path fun w => ih f hf _ w
    · exact check_relocates_of_refuses before path failFast h
  | union alternatives label ih =>
    have hiff : ∀ a ∈ alternatives,
        check a v (before ++ path) failFast = [] ↔ check a v path failFast = [] := by
      intro a ha
      rw [ih a ha path v, List.map_eq_nil_iff]
    rcases clean_or_refused alternatives v path failFast with ⟨a, ha, hnil⟩ | hrefused
    · rw [check_union_of_clean _ failFast ⟨a, ha, (hiff a ha).mpr hnil⟩,
        check_union_of_clean _ failFast ⟨a, ha, hnil⟩, List.map_nil]
    · rw [check_union_of_refused _ failFast fun a ha h => hrefused a ha ((hiff a ha).mp h),
        check_union_of_refused _ failFast hrefused, List.map_singleton, relocate_mk,
        List.map_flatMap, List.flatMap_congr fun a ha => ih a ha path v]
  | intersection members label ih =>
    rw [check_intersection, check_intersection]
    exact gatherUntil_map (stopsMembers_map before path failFast) fun m hm => ih m hm path v

theorem prefix_of_mem_check {s : Schema} {v : Value} {path : Path} {failFast : Bool} {issue : Issue}
    (h : issue ∈ s.check v path failFast) : path <+: issue.path := by
  have hcheck := check_append_path path [] s v failFast
  rw [List.append_nil] at hcheck
  rw [hcheck] at h
  obtain ⟨bare, _, rfl⟩ := List.mem_map.mp h
  rw [relocate_path]
  exact List.prefix_append _ _

theorem prefix_of_mem_fieldIssues {required : Bool} {members : List (String × Value)} {path : Path}
    {failFast : Bool} {f : String × Schema} {issue : Issue}
    (h : issue ∈ fieldIssues required members path failFast f) :
    path ++ [.key f.1] <+: issue.path := by
  unfold fieldIssues at h
  split at h
  · exact prefix_of_mem_check h
  · split at h
    · rw [List.mem_singleton.mp h]
      exact List.prefix_refl _
    · exact absurd h List.not_mem_nil

/-- What is reported of a value at a place is what is reported of it alone, put there. -/
theorem check_relocates (s : Schema) (v : Value) (failFast : Bool) (before path : Path) :
    s.check v (before ++ path) failFast = (s.check v path failFast).map (relocate before) ∧
    s.check v path failFast = (s.check v [] failFast).map (relocate path) := by
  refine ⟨check_append_path before path s v failFast, ?_⟩
  have h := check_append_path path [] s v failFast
  rw [List.append_nil] at h
  exact h

end Schema

end GeoSchema
