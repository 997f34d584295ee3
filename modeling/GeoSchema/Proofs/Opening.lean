import GeoSchema.Proofs.Gather

/-!
# Opening nested schemas

A union may have unions among its alternatives, and an intersection may have intersections among its
members. Opening such a schema at every depth gives what it is made of in the end.
-/

namespace GeoSchema

/-! ## Connectives -/

inductive Connective where
  | union
  | intersection

namespace Connective

def join : Connective → List Schema → Option String → Schema
  | .union => .union
  | .intersection => .intersection

def Joins (c : Connective) (s : Schema) : Prop := ∃ operands label, s = c.join operands label

end Connective

namespace Schema

variable {c : Connective} {s part : Schema}

/-! ## Operands of operands -/

mutual

/-- The operands, opened in their turn where the connective joins them too. -/
def opened (c : Connective) : Schema → List Schema
  | .union alternatives label =>
    match c with
    | .union => openedAll c alternatives
    | .intersection => [.union alternatives label]
  | .intersection members label =>
    match c with
    | .union => [.intersection members label]
    | .intersection => openedAll c members
  | s => [s]

def openedAll (c : Connective) : List Schema → List Schema
  | [] => []
  | s :: rest => opened c s ++ openedAll c rest

end

theorem openedAll_eq_flatMap (c : Connective) (operands : List Schema) :
    openedAll c operands = operands.flatMap (opened c) := by
  induction operands with
  | nil => rfl
  | cons s rest ih => rw [openedAll, List.flatMap_cons, ih]

theorem opened_join (c : Connective) (operands : List Schema) (label : Option String) :
    (c.join operands label).opened c = operands.flatMap (opened c) := by
  rw [← openedAll_eq_flatMap]
  cases c <;> (unfold Connective.join; rw [opened])

theorem opened_of_not_joins (h : ¬ c.Joins s) : s.opened c = [s] := by
  cases s with
  | union alternatives label =>
    cases c with
    | union => exact absurd ⟨alternatives, label, rfl⟩ h
    | intersection => rw [opened]
  | intersection members label =>
    cases c with
    | union => rw [opened]
    | intersection => exact absurd ⟨members, label, rfl⟩ h
  | _ => rfl

/-- Only what the connective joins is gone through. -/
theorem inductionOnOperands {motive : Schema → Prop} (c : Connective)
    (single : ∀ s, ¬ c.Joins s → motive s)
    (join : ∀ operands label, (∀ s ∈ operands, motive s) → motive (c.join operands label))
    (s : Schema) : motive s := by
  induction s with
  | union alternatives label ih =>
    cases c with
    | union => exact join alternatives label ih
    | intersection =>
      apply single
      rintro ⟨_, _, h⟩
      cases h
  | intersection members label ih =>
    cases c with
    | union =>
      apply single
      rintro ⟨_, _, h⟩
      cases h
    | intersection => exact join members label ih
  | _ =>
    apply single
    rintro ⟨_, _, h⟩
    cases c <;> cases h

theorem not_joins_of_mem_opened (h : part ∈ s.opened c) : ¬ c.Joins part := by
  induction s using inductionOnOperands c with
  | single s hs =>
    rw [opened_of_not_joins hs, List.mem_singleton] at h
    rw [h]
    exact hs
  | join operands label ih =>
    rw [opened_join, List.mem_flatMap] at h
    obtain ⟨s, hs, hpart⟩ := h
    exact ih s hs hpart

end Schema

end GeoSchema
