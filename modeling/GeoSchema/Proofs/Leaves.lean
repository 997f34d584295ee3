import GeoSchema.Proofs.Acceptance
import GeoSchema.Proofs.Forest
import GeoSchema.Proofs.Opening
import Mathlib.Data.List.Basic

/-!
# Leaves of a report

A refused union has the issues of its alternatives for causes. So the leaves of a report are those of
the alternatives, in order, and it does not matter how unions are nested.
-/

namespace GeoSchema

/-! ## Leaves of issues -/

namespace Issue

variable {issue leaf : Issue} {issues : List Issue}

theorem inductionOnCauses {motive : Issue → Prop}
    (step : ∀ issue, (∀ cause ∈ issue.causes, motive cause) → motive issue) (issue : Issue) :
    motive issue := by
  refine @Issue.rec motive (fun causes => ∀ cause ∈ causes, motive cause) ?_ ?_ ?_ issue
  · intro path expected kind value causes hcauses
    exact step _ hcauses
  · simp
  · intro cause rest hcause hrest
    exact List.forall_mem_cons.mpr ⟨hcause, hrest⟩

theorem leavesOf_eq_flatMap (issues : List Issue) : leavesOf issues = issues.flatMap leaves := by
  induction issues with
  | nil => rfl
  | cons issue rest ih => rw [leavesOf, List.flatMap_cons, ih]

theorem leavesOf_flatMap {α : Type} (issuesOf : α → List Issue) (parts : List α) :
    leavesOf (parts.flatMap issuesOf) = parts.flatMap fun part => leavesOf (issuesOf part) := by
  simp only [leavesOf_eq_flatMap, List.flatMap_assoc]

theorem leaves_ne_nil (issue : Issue) : issue.leaves ≠ [] := by
  induction issue using inductionOnCauses with
  | step issue ih =>
    by_cases hcauses : issue.causes = []
    · rw [leaves_of_no_causes hcauses]
      exact List.cons_ne_nil _ _
    · obtain ⟨cause, hcause⟩ := List.exists_mem_of_ne_nil _ hcauses
      obtain ⟨leaf, hleaf⟩ := List.exists_mem_of_ne_nil _ (ih cause hcause)
      rw [leaves_of_causes hcauses, leavesOf_eq_flatMap]
      exact List.ne_nil_of_mem (List.mem_flatMap.mpr ⟨cause, hcause, hleaf⟩)

theorem leavesOf_ne_nil (h : issues ≠ []) : leavesOf issues ≠ [] := by
  obtain ⟨issue, rest, rfl⟩ := List.exists_cons_of_ne_nil h
  rw [leavesOf]
  exact List.append_ne_nil_of_left_ne_nil (leaves_ne_nil issue) _

theorem inForest_iff_exists : leaf.InForest issues ↔ ∃ issue ∈ issues, leaf.InForest [issue] := by
  constructor
  · intro h
    refine h.exists_of_forall_mem fun i hi => ?_
    exact ⟨i, hi, List.mem_cons_self⟩
  · rintro ⟨issue, hissue, h⟩
    exact h.mono (by simpa using hissue)

theorem mem_leaves_iff : leaf ∈ issue.leaves ↔ leaf.InForest [issue] ∧ leaf.causes = [] := by
  induction issue using inductionOnCauses with
  | step issue ih =>
    rw [inForest_singleton_iff]
    by_cases hcauses : issue.causes = []
    · rw [leaves_of_no_causes hcauses, hcauses, List.mem_singleton]
      have hnone : ¬ leaf.InForest [] := not_inForest_nil
      constructor
      · rintro rfl
        exact ⟨Or.inl rfl, hcauses⟩
      · rintro ⟨h | h, _⟩
        · exact h
        · exact absurd h hnone
    · rw [leaves_of_causes hcauses, leavesOf_eq_flatMap, List.mem_flatMap]
      constructor
      · rintro ⟨cause, hcause, hleaf⟩
        obtain ⟨htree, hnone⟩ := (ih cause hcause).mp hleaf
        exact ⟨Or.inr (inForest_iff_exists.mpr ⟨cause, hcause, htree⟩), hnone⟩
      · rintro ⟨rfl | h, hnone⟩
        · exact absurd hnone hcauses
        · obtain ⟨cause, hcause, htree⟩ := inForest_iff_exists.mp h
          exact ⟨cause, hcause, (ih cause hcause).mpr ⟨htree, hnone⟩⟩

theorem mem_leavesOf_iff : leaf ∈ leavesOf issues ↔ leaf.InForest issues ∧ leaf.causes = [] := by
  rw [leavesOf_eq_flatMap, List.mem_flatMap, inForest_iff_exists]
  simp only [mem_leaves_iff]
  grind

/-! ## The text of a report -/

theorem length_lt_length_message (issue : Issue) : "Invalid value".length < issue.message.length := by
  have hinvalid : "Invalid value ".length = 14 := by decide
  have hmissing : "Missing required field ".length = 23 := by decide
  have hstand : "Invalid value".length = 13 := by decide
  unfold message
  split <;> simp only [String.length_append] <;> omega

theorem length_le_length_intercalate (separator first : String) (rest : List String) :
    first.length ≤ (separator.intercalate (first :: rest)).length := by
  cases rest with
  | nil => simp
  | cons second rest =>
    rw [String.intercalate_cons_cons, String.length_append, String.length_append]
    omega

theorem messages_ne_nil (h : issues ≠ []) : messages issues ≠ [] := by
  unfold messages
  rw [Ne, List.map_eq_nil_iff]
  exact leavesOf_ne_nil h

theorem errorText_of_ne_nil (h : issues ≠ []) :
    errorText issues = "\n".intercalate (messages issues) ∧ errorText issues ≠ "Invalid value" := by
  obtain ⟨leaf, others, hleaves⟩ := List.exists_cons_of_ne_nil (leavesOf_ne_nil h)
  have hmessages : messages issues = leaf.message :: others.map message := by
    rw [messages, hleaves, List.map_cons]
  have hlong : "Invalid value".length < ("\n".intercalate (messages issues)).length := by
    rw [hmessages]
    exact (length_lt_length_message leaf).trans_le (length_le_length_intercalate _ _ _)
  have hfull : ("\n".intercalate (messages issues)).isEmpty = false := by
    rw [← Bool.not_eq_true, String.isEmpty_iff]
    intro hempty
    rw [hempty] at hlong
    exact absurd hlong (by decide)
  have htext : errorText issues = "\n".intercalate (messages issues) := by
    unfold errorText
    simp only [hfull, Bool.false_eq_true, if_false]
  refine ⟨htext, fun hfallback => ?_⟩
  rw [← htext, hfallback] at hlong
  exact absurd hlong (lt_irrefl _)

end Issue

/-! ## Leaves of a check -/

namespace Schema

open Issue

variable {s : Schema} {v : Value} {path : Path} {failFast : Bool} {label : Option String}
  {alternatives : List Schema} {issue : Issue}

def hasAlternatives : Schema → Bool
  | .union [] _ => false
  | _ => true

/-- An empty union would refuse everything for no cause, and is never built. -/
def unionsNonEmpty (s : Schema) : Bool := s.throughout hasAlternatives

theorem alternatives_ne_nil (h : hasAlternatives (.union alternatives label) = true) :
    alternatives ≠ [] := by
  rintro rfl
  cases h

theorem ne_nil_of_unionsNonEmpty (h : (union alternatives label).unionsNonEmpty = true) :
    alternatives ≠ [] :=
  alternatives_ne_nil (throughout_iff.mp h).1

theorem unionsNonEmpty_part {part : Schema} (h : s.unionsNonEmpty = true) (hpart : part ∈ s.parts) :
    part.unionsNonEmpty = true :=
  throughout_part h hpart

theorem causes_ne_nil (hne : alternatives ≠ []) (h : ∀ a ∈ alternatives, check a v path failFast ≠ []) :
    (alternatives.flatMap fun a => check a v path failFast) ≠ [] := by
  obtain ⟨a, ha⟩ := List.exists_mem_of_ne_nil _ hne
  obtain ⟨issue, hissue⟩ := List.exists_mem_of_ne_nil _ (h a ha)
  exact List.ne_nil_of_mem (List.mem_flatMap.mpr ⟨a, ha, hissue⟩)

theorem causes_ne_nil_iff_of_inForest (hs : s.unionsNonEmpty = true)
    (h : issue.InForest (s.check v path failFast)) :
    issue.causes ≠ [] ↔ issue.kind = .allAlternativesFailed := by
  unfold unionsNonEmpty at hs
  refine forall_inForest_check (P := fun issue => issue.causes ≠ [] ↔ issue.kind = .allAlternativesFailed)
    ?_ ?_ ?_ hs h
  · intro s v kind path _ hrefuses
    cases hrefuses <;> simp [refusal]
  · intro field path _
    simp [refusal]
  · intro alternatives v path label hfull hrefused
    simp [causes_ne_nil (alternatives_ne_nil hfull) hrefused]

theorem leavesOf_check_of_accepts (h : s.accepts v = true) :
    leavesOf (s.check v path failFast) = [] := by
  rw [check_eq_nil_iff_accepts.mpr h]
  rfl

theorem refuses_union_iff :
    (union alternatives label).accepts v = false ↔ ∀ a ∈ alternatives, a.accepts v = false := by
  simp only [← Bool.not_eq_true, accepts_union, not_exists, not_and]

theorem leavesOf_check_union (hne : alternatives ≠ [])
    (h : (union alternatives label).accepts v = false) :
    leavesOf (check (.union alternatives label) v path failFast) =
      alternatives.flatMap fun a => leavesOf (check a v path failFast) := by
  have hrefused : ∀ a ∈ alternatives, check a v path failFast ≠ [] := by
    intro a ha
    rw [check_ne_nil_iff]
    exact refuses_union_iff.mp h a ha
  have hcauses := causes_ne_nil hne hrefused
  rw [check_union_of_refused path failFast hrefused, leavesOf, leaves_of_causes hcauses, leavesOf,
    List.append_nil, leavesOf_flatMap]

/-! ## Opening a union -/

theorem accepts_iff_exists_opened : s.accepts v ↔ ∃ a ∈ s.opened .union, a.accepts v := by
  induction s using inductionOnOperands .union with
  | single s hs => simp [opened_of_not_joins hs]
  | join alternatives label ih =>
    rw [opened_join, Connective.join, accepts_union]
    simp only [List.mem_flatMap]
    constructor
    · rintro ⟨a, ha, haccepts⟩
      obtain ⟨b, hb, hbaccepts⟩ := (ih a ha).mp haccepts
      exact ⟨b, ⟨a, ha, hb⟩, hbaccepts⟩
    · rintro ⟨b, ⟨a, ha, hb⟩, hbaccepts⟩
      exact ⟨a, ha, (ih a ha).mpr ⟨b, hb, hbaccepts⟩⟩

theorem opened_union_ne_nil (hs : s.unionsNonEmpty = true) : s.opened .union ≠ [] := by
  induction s using inductionOnOperands .union with
  | single s h => simp [opened_of_not_joins h]
  | join alternatives label ih =>
    obtain ⟨a, ha⟩ := List.exists_mem_of_ne_nil _ (ne_nil_of_unionsNonEmpty hs)
    obtain ⟨b, hb⟩ := List.exists_mem_of_ne_nil _ (ih a ha (unionsNonEmpty_part hs ha))
    rw [opened_join]
    exact List.ne_nil_of_mem (List.mem_flatMap.mpr ⟨a, ha, hb⟩)

theorem leavesOf_check_opened (hs : s.unionsNonEmpty = true) (h : s.accepts v = false) :
    leavesOf (s.check v path failFast) =
      (s.opened .union).flatMap fun a => leavesOf (check a v path failFast) := by
  induction s using inductionOnOperands .union with
  | single s hsingle => simp [opened_of_not_joins hsingle]
  | join alternatives label ih =>
    rw [opened_join, List.flatMap_assoc]
    rw [Connective.join] at h hs ⊢
    rw [leavesOf_check_union (ne_nil_of_unionsNonEmpty hs) h]
    refine List.flatMap_congr fun a ha => ?_
    exact ih a ha (unionsNonEmpty_part hs ha) (refuses_union_iff.mp h a ha)

theorem opened_union_eq (alternatives : List Schema) (label : Option String) :
    opened .union (.union alternatives label) = openedAll .union alternatives := by
  rw [opened]

/-- Opening nested unions changes neither what is accepted nor the leaves. -/
theorem union_openedAll (hs : (union alternatives label).unionsNonEmpty = true)
    (flatLabel : Option String) :
    (union (openedAll .union alternatives) flatLabel).accepts v = (union alternatives label).accepts v ∧
      leavesOf (check (.union (openedAll .union alternatives) flatLabel) v path failFast) =
        leavesOf (check (.union alternatives label) v path failFast) := by
  have haccepts : (union (openedAll .union alternatives) flatLabel).accepts v =
      (union alternatives label).accepts v := by
    rw [Bool.eq_iff_iff, accepts_union, accepts_iff_exists_opened (s := .union alternatives label),
      opened_union_eq]
  refine ⟨haccepts, ?_⟩
  cases h : (union alternatives label).accepts v with
  | true =>
    rw [h] at haccepts
    rw [leavesOf_check_of_accepts h, leavesOf_check_of_accepts haccepts]
  | false =>
    rw [h] at haccepts
    have hne := opened_union_ne_nil hs
    rw [opened_union_eq] at hne
    rw [leavesOf_check_opened hs h, opened_union_eq, leavesOf_check_union hne haccepts]

/-! ## What unions report -/

/-- The leaves of a refused union are those of its alternatives, however they are nested. -/
theorem union_leaves_of_alternatives (hs : s.unionsNonEmpty = true) (v : Value) (path : Path)
    (failFast : Bool) :
    (∀ issue : Issue, issue.InForest (s.check v path failFast) →
      (issue.causes ≠ [] ↔ issue.kind = .allAlternativesFailed)) ∧
    (∀ leaf, leaf ∈ leavesOf (s.check v path failFast) ↔
      leaf.InForest (s.check v path failFast) ∧ leaf.kind ≠ .allAlternativesFailed) ∧
    (∀ issue ∈ s.check v path failFast, issue.leaves ≠ []) ∧
    (∀ reported, reported ≠ [] → reported <+: s.check v path failFast →
      errorText reported = "\n".intercalate (messages reported) ∧
        errorText reported ≠ "Invalid value") ∧
    (∀ alternatives label, s = .union alternatives label →
      (s.accepts v = false → leavesOf (s.check v path failFast) =
        alternatives.flatMap fun a => leavesOf (check a v path failFast)) ∧
      (∀ a ∈ openedAll .union alternatives, ¬ Connective.union.Joins a) ∧
      ∀ flatLabel,
        (union (openedAll .union alternatives) flatLabel).accepts v = s.accepts v ∧
          leavesOf (check (.union (openedAll .union alternatives) flatLabel) v path failFast) =
            leavesOf (s.check v path failFast)) := by
  have hcauses {issue : Issue} (h : issue.InForest (s.check v path failFast)) :
      issue.causes ≠ [] ↔ issue.kind = .allAlternativesFailed :=
    causes_ne_nil_iff_of_inForest hs h
  refine ⟨fun issue => hcauses, ?_, fun issue _ => leaves_ne_nil issue,
    fun reported hne _ => errorText_of_ne_nil hne, ?_⟩
  · intro leaf
    rw [mem_leavesOf_iff]
    refine and_congr_right fun h => ?_
    rw [← not_iff_not, not_not]
    exact hcauses h
  · rintro alternatives label rfl
    refine ⟨leavesOf_check_union (ne_nil_of_unionsNonEmpty hs), ?_, union_openedAll hs⟩
    rw [← opened_union_eq alternatives label]
    exact fun a => not_joins_of_mem_opened

theorem union_leaves_of_nested_alternatives :
    (union [.primitive .text, .union [.primitive .number, .tuple [] none] none] none).unionsNonEmpty =
        true ∧
      leavesOf (check (.union [.primitive .text, .union [.primitive .number, .tuple [] none] none] none)
          .null [.key "id"] true) =
        [.refusal [.key "id"] "string" .shapeMismatch .null,
          .refusal [.key "id"] "number" .shapeMismatch .null,
          .refusal [.key "id"] "[]" .shapeMismatch .null] ∧
      leavesOf (check (.union [.primitive .text, .primitive .number, .tuple [] none] none) .null
          [.key "id"] true) =
        leavesOf (check (.union [.primitive .text,
          .union [.primitive .number, .tuple [] none] none] none) .null [.key "id"] true) := by
  have hfull : (union [.primitive .text,
      .union [.primitive .number, .tuple [] none] none] none).unionsNonEmpty = true := by decide
  obtain ⟨-, -, -, -, hunion⟩ := union_leaves_of_alternatives hfull .null [.key "id"] true
  obtain ⟨hleaves, -, hflat⟩ := hunion _ none rfl
  exact ⟨hfull, hleaves (by decide), (hflat none).2⟩

end Schema

end GeoSchema
