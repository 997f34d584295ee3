import GeoSchema.Proofs.Gather
import Mathlib.Tactic.Common

/-!
# Tests of all parts

A schema passes a test throughout if it does itself, and all its parts do at every depth.
-/

namespace GeoSchema.Schema

def parts : Schema → List Schema
  | .primitive _ => []
  | .literal _ _ => []
  | .tuple items _ => items
  | .array _ item _ => [item]
  | .dictionary key value _ => [key, value]
  | .object _ fields _ => fields.map (·.2)
  | .union alternatives _ => alternatives
  | .intersection members _ => members

mutual

def throughout (test : Schema → Bool) : Schema → Bool
  | .primitive p => test (.primitive p)
  | .literal c label => test (.literal c label)
  | .tuple items label => test (.tuple items label) && allThroughout test items
  | .array nonEmpty item label => test (.array nonEmpty item label) && throughout test item
  | .dictionary key value label =>
    test (.dictionary key value label) && (throughout test key && throughout test value)
  | .object required fields label =>
    test (.object required fields label) && fieldsThroughout test fields
  | .union alternatives label => test (.union alternatives label) && allThroughout test alternatives
  | .intersection members label => test (.intersection members label) && allThroughout test members

def allThroughout (test : Schema → Bool) : List Schema → Bool
  | [] => true
  | s :: rest => throughout test s && allThroughout test rest

def fieldsThroughout (test : Schema → Bool) : List (String × Schema) → Bool
  | [] => true
  | (_, s) :: rest => throughout test s && fieldsThroughout test rest

end

variable {test : Schema → Bool}

theorem allThroughout_iff {schemas : List Schema} :
    allThroughout test schemas = true ↔ ∀ s ∈ schemas, s.throughout test = true := by
  induction schemas with
  | nil => simp [allThroughout]
  | cons s rest ih => rw [allThroughout, Bool.and_eq_true, ih, List.forall_mem_cons]

theorem fieldsThroughout_iff {fields : List (String × Schema)} :
    fieldsThroughout test fields = true ↔ ∀ f ∈ fields, f.2.throughout test = true := by
  induction fields with
  | nil => simp [fieldsThroughout]
  | cons f rest ih => rw [fieldsThroughout, Bool.and_eq_true, ih, List.forall_mem_cons]

theorem throughout_iff {s : Schema} :
    s.throughout test = true ↔ test s = true ∧ ∀ part ∈ s.parts, part.throughout test = true := by
  cases s with
  | object required fields label =>
    rw [throughout, Bool.and_eq_true, fieldsThroughout_iff, parts, List.forall_mem_map]
  | _ => simp [throughout, parts, allThroughout_iff]

theorem throughout_part {s part : Schema} (h : s.throughout test = true) (hpart : part ∈ s.parts) :
    part.throughout test = true :=
  (throughout_iff.mp h).2 part hpart

theorem ofParts {motive : Schema → Prop} (h : ∀ s, (∀ part ∈ s.parts, motive part) → motive s)
    (s : Schema) : motive s := by
  induction s with
  | primitive p => exact h _ (by simp [parts])
  | literal c label => exact h _ (by simp [parts])
  | tuple items label ih => exact h _ ih
  | array nonEmpty item label ih => exact h _ (List.forall_mem_singleton.mpr ih)
  | dictionary key value label ihkey ihvalue =>
    exact h _ (List.forall_mem_cons.mpr ⟨ihkey, List.forall_mem_singleton.mpr ihvalue⟩)
  | object required fields label ih => exact h _ (List.forall_mem_map.mpr ih)
  | union alternatives label ih => exact h _ ih
  | intersection members label ih => exact h _ ih

theorem throughout_mono {test more : Schema → Bool} (h : ∀ s, test s = true → more s = true) (s : Schema)
    (hs : s.throughout test = true) : s.throughout more = true := by
  induction s using ofParts with
  | h s ih =>
    obtain ⟨htest, hparts⟩ := throughout_iff.mp hs
    exact throughout_iff.mpr ⟨h s htest, fun part hpart => ih part hpart (hparts part hpart)⟩

end GeoSchema.Schema
