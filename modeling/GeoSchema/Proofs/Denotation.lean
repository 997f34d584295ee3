import GeoSchema.Proofs.Acceptance
import Mathlib.Data.Set.Basic

/-!
# The set that a schema denotes

`Schema.denotation` tells by recursion on the schema which values belong to it, without a word of
paths, issues and modes. A check finds nothing exactly where the value belongs.
-/

namespace GeoSchema

namespace Schema

/-! ## The denotation -/

def denotation : Schema → Set Value
  | .primitive .number => {v | (∃ n, v = .int n) ∨ ∃ x, v = .float x}
  | .primitive .text => {v | ∃ s, v = .text s}
  | .primitive .null => {v | v = .null}
  | .primitive .any => Set.univ
  | .literal c _ => {v | c.StrictlyEquals v}
  | .tuple items _ =>
    {v | ∃ elements, (v = .list elements ∨ v = .tuple elements) ∧
      elements.length = items.length ∧
      ∀ part (_ : part ∈ items.zip elements), part.2 ∈ denotation part.1}
  | .array nonEmpty item _ =>
    {v | ∃ elements, (v = .list elements ∨ v = .tuple elements) ∧
      (nonEmpty = true → elements ≠ []) ∧ ∀ e ∈ elements, e ∈ denotation item}
  | .dictionary key value _ =>
    {v | ∃ entries, v = .dict entries ∧
      ∀ e ∈ entries, e.1 ∈ denotation key ∧ e.2 ∈ denotation value}
  | .object required fields _ =>
    {v | ∃ members, v = .object members ∧ ∀ f (_ : f ∈ fields),
      (required = true → ∃ w, members.lookup f.1 = some w) ∧
        ∀ w, members.lookup f.1 = some w → w ∈ denotation f.2}
  | .union alternatives _ => {v | ∃ a, ∃ _ : a ∈ alternatives, v ∈ denotation a}
  | .intersection members _ => {v | ∀ m (_ : m ∈ members), v ∈ denotation m}
termination_by s => sizeOf s
decreasing_by
  all_goals simp_wf
  · have := List.sizeOf_lt_of_mem (List.of_mem_zip (by assumption)).1
    omega
  · omega
  · omega
  · omega
  · have := List.sizeOf_lt_of_mem (by assumption : f ∈ fields)
    rw [Prod.mk.sizeOf_spec] at this
    omega
  · have := List.sizeOf_lt_of_mem (by assumption : a ∈ alternatives)
    omega
  · have := List.sizeOf_lt_of_mem (by assumption : m ∈ members)
    omega

/-! ## What is accepted is what is denoted -/

theorem accepts_primitive_iff_mem (p : Primitive) (v : Value) :
    p.accepts v = true ↔ v ∈ denotation (.primitive p) := by
  cases p with
  | any => simp [Primitive.accepts, denotation]
  | number => cases v <;> simp [Primitive.accepts, Value.isNumber, denotation]
  | text => cases v <;> simp [Primitive.accepts, denotation]
  | null => cases v <;> simp [Primitive.accepts, denotation]

/-- A check finds nothing exactly if the value is in the set that the schema denotes. -/
theorem check_eq_nil_iff_mem_denotation (s : Schema) (v : Value) (path : Path) (failFast : Bool) :
    s.check v path failFast = [] ↔ v ∈ s.denotation := by
  rw [check_eq_nil_iff_accepts]
  induction s generalizing v with
  | primitive p => rw [accepts_primitive, accepts_primitive_iff_mem]
  | literal c label => rw [accepts_literal, denotation, Set.mem_ofPred_eq]
  | tuple items label ih =>
    rw [accepts_tuple, denotation, Set.mem_ofPred_eq]
    refine exists_congr fun elements => and_congr Value.elements?_eq_some_iff ?_
    refine and_congr_right fun _ => forall₂_congr fun part hpart => ?_
    exact ih part.1 (List.of_mem_zip hpart).1 part.2
  | array nonEmpty item label ih =>
    rw [accepts_array, denotation, Set.mem_ofPred_eq]
    refine exists_congr fun elements => and_congr Value.elements?_eq_some_iff ?_
    exact and_congr_right fun _ => forall₂_congr fun e _ => ih e
  | dictionary key value label ihkey ihvalue =>
    rw [accepts_dictionary, denotation, Set.mem_ofPred_eq]
    refine exists_congr fun entries => and_congr Value.entries?_eq_some_iff ?_
    exact forall₂_congr fun e _ => and_congr (ihkey e.1) (ihvalue e.2)
  | object required fields label ih =>
    rw [accepts_object, denotation, Set.mem_ofPred_eq]
    refine exists_congr fun members => and_congr Value.members?_eq_some_iff ?_
    refine forall₂_congr fun f hf => and_congr ?_ (forall₂_congr fun w _ => ih f hf w)
    rw [Option.isSome_iff_exists]
  | union alternatives label ih =>
    rw [accepts_union, denotation, Set.mem_ofPred_eq]
    refine exists_congr fun a => ?_
    rw [exists_prop]
    exact and_congr_right fun ha => ih a ha v
  | intersection members label ih =>
    rw [accepts_intersection, denotation, Set.mem_ofPred_eq]
    exact forall₂_congr fun m hm => ih m hm v

end Schema

end GeoSchema
