import GeoSchema.Proofs.Gather
import Mathlib.Data.List.Forall2

/-!
# A fail-fast report thins the full one

The report of a fail-fast check stands in the full report, in order and with the same first issue.
The causes of refused unions are thinned in the same way, at every depth.
-/

namespace GeoSchema

/-! ## Thinning -/

namespace Issue

/-- The same with fewer causes, in order, and with the same first cause. -/
inductive Thins : Issue → Issue → Prop where
  | leaf (path expected kind value) :
    Thins ⟨path, expected, kind, value, []⟩ ⟨path, expected, kind, value, []⟩
  | aggregate (path expected kind value) {cause fullCause rest fullRest}
    (hfirst : Thins cause fullCause) (hrest : List.SublistForall₂ Thins rest fullRest) :
    Thins ⟨path, expected, kind, value, cause :: rest⟩
      ⟨path, expected, kind, value, fullCause :: fullRest⟩

/-- The first stands in the second, and their first issues belong together. -/
def ThinsAll (report full : List Issue) : Prop :=
  List.SublistForall₂ Thins report full ∧
    ∀ fullFirst ∈ full.head?, ∃ first ∈ report.head?, first.Thins fullFirst

theorem sublistForall₂_of_cons {issue : Issue} {report full : List Issue}
    (h : List.SublistForall₂ Thins (issue :: report) full) :
    List.SublistForall₂ Thins report full := by
  induction full with
  | nil => cases h
  | cons fullFirst full ih =>
    cases h with
    | cons _ h => exact .cons_right h
    | cons_right h => exact .cons_right (ih h)

theorem thinsAll_nil_iff {report : List Issue} : ThinsAll report [] ↔ report = [] := by
  constructor
  · rintro ⟨h, _⟩
    cases h
    rfl
  · rintro rfl
    exact ⟨.nil, by simp⟩

theorem thinsAll_cons_iff {report full : List Issue} {fullFirst : Issue} :
    ThinsAll report (fullFirst :: full) ↔
      ∃ first rest, report = first :: rest ∧ first.Thins fullFirst ∧
        List.SublistForall₂ Thins rest full := by
  constructor
  · rintro ⟨h, hhead⟩
    obtain ⟨first, hfirst, hthins⟩ := hhead fullFirst rfl
    obtain ⟨rest, rfl⟩ := List.head?_eq_some_iff.mp hfirst
    refine ⟨first, rest, rfl, hthins, ?_⟩
    cases h with
    | cons _ h => exact h
    | cons_right h => exact sublistForall₂_of_cons h
  · rintro ⟨first, rest, rfl, hthins, hrest⟩
    refine ⟨.cons hthins hrest, ?_⟩
    rintro _ ⟨⟩
    exact ⟨first, rfl, hthins⟩

theorem thins_iff {issue full : Issue} :
    issue.Thins full ↔
      issue.path = full.path ∧ issue.expected = full.expected ∧ issue.kind = full.kind ∧
        issue.value = full.value ∧ ThinsAll issue.causes full.causes := by
  constructor
  · intro h
    cases h with
    | leaf => exact ⟨rfl, rfl, rfl, rfl, thinsAll_nil_iff.mpr rfl⟩
    | aggregate _ _ _ _ hfirst hrest =>
      exact ⟨rfl, rfl, rfl, rfl, thinsAll_cons_iff.mpr ⟨_, _, rfl, hfirst, hrest⟩⟩
  · obtain ⟨path, expected, kind, value, causes⟩ := issue
    obtain ⟨_, _, _, _, _ | ⟨fullCause, fullRest⟩⟩ := full
    · rintro ⟨rfl, rfl, rfl, rfl, hcauses⟩
      obtain rfl := thinsAll_nil_iff.mp hcauses
      exact .leaf _ _ _ _
    · rintro ⟨rfl, rfl, rfl, rfl, hcauses⟩
      obtain ⟨cause, rest, hcauses, hfirst, hrest⟩ := thinsAll_cons_iff.mp hcauses
      obtain rfl : causes = cause :: rest := hcauses
      exact .aggregate _ _ _ _ hfirst hrest

namespace ThinsAll

variable {report full report' full' : List Issue}

theorem eq_nil_iff (h : ThinsAll report full) : report = [] ↔ full = [] := by
  cases full with
  | nil => simp [thinsAll_nil_iff.mp h]
  | cons fullFirst full =>
    obtain ⟨first, rest, rfl, -, -⟩ := thinsAll_cons_iff.mp h
    simp

theorem singleton {issue fullIssue : Issue} (h : issue.Thins fullIssue) :
    ThinsAll [issue] [fullIssue] :=
  thinsAll_cons_iff.mpr ⟨issue, [], rfl, h, .nil⟩

theorem refusal (path : Path) (expected : String) (kind : IssueKind) (v : Value) :
    ThinsAll [.refusal path expected kind v] [.refusal path expected kind v] :=
  singleton (.leaf path expected kind v)

theorem append (h : ThinsAll report full) (h' : ThinsAll report' full') :
    ThinsAll (report ++ report') (full ++ full') := by
  cases full with
  | nil =>
    obtain rfl := thinsAll_nil_iff.mp h
    exact h'
  | cons fullFirst full =>
    obtain ⟨first, rest, rfl, hfirst, hrest⟩ := thinsAll_cons_iff.mp h
    refine thinsAll_cons_iff.mpr ⟨first, rest ++ report', rfl, hfirst, ?_⟩
    obtain ⟨image, himage, hsub⟩ := List.sublistForall₂_iff.mp hrest
    obtain ⟨image', himage', hsub'⟩ := List.sublistForall₂_iff.mp h'.1
    exact List.sublistForall₂_iff.mpr
      ⟨image ++ image', List.rel_append himage himage', hsub.append hsub'⟩

theorem append_right (h : ThinsAll report full) (hne : report ≠ []) (later : List Issue) :
    ThinsAll report (full ++ later) := by
  cases full with
  | nil => exact absurd (thinsAll_nil_iff.mp h) hne
  | cons fullFirst full =>
    obtain ⟨first, rest, rfl, hfirst, hrest⟩ := thinsAll_cons_iff.mp h
    refine thinsAll_cons_iff.mpr ⟨first, rest, rfl, hfirst, ?_⟩
    obtain ⟨image, himage, hsub⟩ := List.sublistForall₂_iff.mp hrest
    exact List.sublistForall₂_iff.mpr ⟨image, himage, hsub.trans (List.sublist_append_left _ _)⟩

variable {α : Type} {fast fullOf : α → List Issue} {parts : List α}

theorem flatMap (h : ∀ part ∈ parts, ThinsAll (fast part) (fullOf part)) :
    ThinsAll (parts.flatMap fast) (parts.flatMap fullOf) := by
  induction parts with
  | nil => exact thinsAll_nil_iff.mpr rfl
  | cons part rest ih =>
    rw [List.flatMap_cons, List.flatMap_cons]
    exact (h part List.mem_cons_self).append (ih fun p hp => h p (List.mem_cons_of_mem _ hp))

theorem gatherUntil {stop stopFull : List Issue → Bool} (hstop : ∀ found, stop found = !found.isEmpty)
    (hstopFull : stopFull [] = false)
    (h : ∀ part ∈ parts, ThinsAll (fast part) (fullOf part)) :
    ThinsAll (gatherUntil stop fast parts) (gatherUntil stopFull fullOf parts) := by
  induction parts with
  | nil => exact thinsAll_nil_iff.mpr rfl
  | cons part rest ih =>
    have hpart := h part List.mem_cons_self
    have hrest := ih fun p hp => h p (List.mem_cons_of_mem _ hp)
    rw [GeoSchema.gatherUntil, GeoSchema.gatherUntil, hstop]
    by_cases hnil : fast part = []
    · -- Neither mode has found anything, and both go on.
      have hfull : fullOf part = [] := hpart.eq_nil_iff.mp hnil
      rw [hnil, hfull, hstopFull]
      exact hrest
    · have hfound : (!(fast part).isEmpty) = true := by simpa using hnil
      rw [if_pos hfound]
      split
      · exact hpart
      · exact hpart.append_right hnil _

end ThinsAll

end Issue

/-! ## The two modes of a check -/

namespace Schema

open Issue

theorem stopsEarly_true (found : List Issue) : stopsEarly true found = !found.isEmpty := rfl

/-- In fail-fast mode the second reason to stop never comes first. -/
theorem stopsMembers_true (path : Path) (found : List Issue) :
    stopsMembers path true found = !found.isEmpty := by
  rw [stopsMembers, stopsEarly_true]
  cases found <;> rfl

theorem fieldIssues_thins {required : Bool} {members : List (String × Value)} {path : Path}
    {f : String × Schema}
    (ih : ∀ w, ThinsAll (f.2.check w (path ++ [.key f.1]) true)
      (f.2.check w (path ++ [.key f.1]) false)) :
    ThinsAll (fieldIssues required members path true f)
      (fieldIssues required members path false f) := by
  rw [fieldIssues, fieldIssues]
  cases members.lookup f.1 with
  | some w => exact ih w
  | none =>
    cases required with
    | true => exact .refusal _ _ _ _
    | false => exact thinsAll_nil_iff.mpr rfl

/-- The fail-fast report of any value thins its full report. -/
theorem check_failFast_thins (s : Schema) (v : Value) (path : Path) :
    ThinsAll (s.check v path true) (s.check v path false) := by
  have hrefused {s : Schema} {v : Value} {path : Path} {kind : IssueKind} (h : s.Refuses v kind) :
      ThinsAll (s.check v path true) (s.check v path false) := by
    rw [check_of_refuses path true h, check_of_refuses path false h]
    exact .refusal _ _ _ _
  induction s generalizing v path with
  | primitive p =>
    rcases accepts_or_refuses p v with h | ⟨_, h⟩
    · rw [check_primitive path true h, check_primitive path false h, thinsAll_nil_iff]
    · exact hrefused h
  | literal c label =>
    rcases strictlyEquals_or_refuses c label v with h | ⟨_, h⟩
    · rw [check_literal path true h, check_literal path false h, thinsAll_nil_iff]
    · exact hrefused h
  | tuple items label ih =>
    rcases elements_or_refuses_tuple items label v with ⟨elements, hv, hlen⟩ | ⟨_, h⟩
    · rw [check_tuple path true hv hlen, check_tuple path false hv hlen]
      refine .gatherUntil stopsEarly_true (stopsEarly_nil _) fun part hpart => ?_
      have hitem : part.1.1 ∈ items :=
        (List.of_mem_zip (List.fst_mem_of_mem_zipIdx hpart)).1
      exact ih part.1.1 hitem part.1.2 _
    · exact hrefused h
  | array nonEmpty item label ih =>
    rcases elements_or_refuses_array nonEmpty item label v with ⟨elements, hv, hne⟩ | ⟨_, h⟩
    · rw [check_array path true hv hne, check_array path false hv hne]
      exact .gatherUntil stopsEarly_true (stopsEarly_nil _) fun e _ => ih e.1 _
    · exact hrefused h
  | dictionary key value label ihkey ihvalue =>
    rcases entries_or_refuses key value label v with ⟨entries, hv⟩ | ⟨_, h⟩
    · rw [check_dictionary path true hv, check_dictionary path false hv]
      refine .gatherUntil stopsEarly_true (stopsEarly_nil _) fun e _ => ?_
      exact (ihkey e.1 _).append (ihvalue e.2 _)
    · exact hrefused h
  | object required fields label ih =>
    rcases members_or_refuses required fields label v with ⟨members, hv⟩ | ⟨_, h⟩
    · rw [check_object path true hv, check_object path false hv]
      refine .gatherUntil stopsEarly_true (stopsEarly_nil _) fun f hf => ?_
      exact fieldIssues_thins fun w => ih f hf w _
    · exact hrefused h
  | union alternatives label ih =>
    rcases clean_or_refused alternatives v path true with ⟨a, ha, hnil⟩ | hrefusing
    · have hfull : check a v path false = [] := (ih a ha v path).eq_nil_iff.mp hnil
      rw [check_union_of_clean path true ⟨a, ha, hnil⟩,
        check_union_of_clean path false ⟨a, ha, hfull⟩, thinsAll_nil_iff]
    · have hrefusingFull : ∀ a ∈ alternatives, check a v path false ≠ [] := by
        intro a ha hnil
        exact hrefusing a ha ((ih a ha v path).eq_nil_iff.mpr hnil)
      rw [check_union_of_refused path true hrefusing,
        check_union_of_refused path false hrefusingFull]
      refine .singleton (thins_iff.mpr ⟨rfl, rfl, rfl, rfl, ?_⟩)
      exact .flatMap fun a ha => ih a ha v path
  | intersection members label ih =>
    rw [check_intersection, check_intersection]
    exact .gatherUntil (stopsMembers_true path) (stopsMembers_nil path false) fun m hm =>
      ih m hm v path

end Schema

end GeoSchema
