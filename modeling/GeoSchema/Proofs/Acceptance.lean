import GeoSchema.Proofs.Gather

/-!
# Acceptance

Whether a check finds issues depends neither on the path nor on the mode, so that a schema accepts
or refuses a value as such. What a schema accepts is told by what its parts accept.
-/

namespace GeoSchema.Schema

variable {v : Value} {path : Path} {failFast : Bool} {label : Option String}

/-! ## When a check finds nothing -/

theorem check_ne_nil_of_refuses {s : Schema} {kind : IssueKind} (h : s.Refuses v kind) :
    s.check v path failFast ≠ [] := by
  rw [check_of_refuses path failFast h]
  exact List.cons_ne_nil _ _

theorem check_eq_nil_iff_of_good {s : Schema} {Good : Prop}
    (hgood : Good ∨ ∃ kind, s.Refuses v kind) (hnil : Good → s.check v path failFast = []) :
    s.check v path failFast = [] ↔ Good := by
  refine ⟨?_, hnil⟩
  intro h
  rcases hgood with hgood | ⟨kind, hrefuses⟩
  · exact hgood
  · exact absurd h (check_ne_nil_of_refuses hrefuses)

theorem check_eq_nil_iff_of_or_refuses {s : Schema} {α : Type} {Shape Clean : α → Prop}
    (hshape : (∃ a, Shape a) ∨ ∃ kind, s.Refuses v kind)
    (hparts : ∀ a, Shape a → (s.check v path failFast = [] ↔ Clean a)) :
    s.check v path failFast = [] ↔ ∃ a, Shape a ∧ Clean a := by
  constructor
  · intro hnil
    rcases hshape with ⟨a, ha⟩ | ⟨kind, h⟩
    · exact ⟨a, ha, (hparts a ha).mp hnil⟩
    · exact absurd hnil (check_ne_nil_of_refuses h)
  · rintro ⟨a, ha, hclean⟩
    exact (hparts a ha).mpr hclean

theorem check_primitive_eq_nil_iff {p : Primitive} :
    check (.primitive p) v path failFast = [] ↔ p.accepts v = true := by
  apply check_eq_nil_iff_of_good (accepts_or_refuses p v)
  intro h
  exact check_primitive path failFast h

theorem check_literal_eq_nil_iff {c : Constant} :
    check (.literal c label) v path failFast = [] ↔ c.StrictlyEquals v := by
  apply check_eq_nil_iff_of_good (strictlyEquals_or_refuses c label v)
  intro h
  exact check_literal path failFast h

theorem check_tuple_eq_nil_iff {items : List Schema} :
    check (.tuple items label) v path failFast = [] ↔
      ∃ elements, (v.elements? = some elements ∧ elements.length = items.length) ∧
        ∀ part ∈ (items.zip elements).zipIdx, elementIssues path failFast part = [] := by
  apply check_eq_nil_iff_of_or_refuses (elements_or_refuses_tuple items label v)
  rintro elements ⟨hv, hlen⟩
  rw [check_tuple path failFast hv hlen, gatherUntil_eq_nil_iff (stopsEarly_nil _)]

theorem check_array_eq_nil_iff {nonEmpty : Bool} {item : Schema} :
    check (.array nonEmpty item label) v path failFast = [] ↔
      ∃ elements, (v.elements? = some elements ∧ (nonEmpty = true → elements ≠ [])) ∧
        ∀ e ∈ elements.zipIdx, check item e.1 (path ++ [.index e.2]) failFast = [] := by
  apply check_eq_nil_iff_of_or_refuses (elements_or_refuses_array nonEmpty item label v)
  rintro elements ⟨hv, hne⟩
  rw [check_array path failFast hv hne, gatherUntil_eq_nil_iff (stopsEarly_nil _)]

theorem check_dictionary_eq_nil_iff {key value : Schema} :
    check (.dictionary key value label) v path failFast = [] ↔
      ∃ entries, v.entries? = some entries ∧
        ∀ e ∈ entries, check key e.1 (path ++ [.ofKey e.1]) failFast = [] ∧
          check value e.2 (path ++ [.ofKey e.1]) failFast = [] := by
  apply check_eq_nil_iff_of_or_refuses (entries_or_refuses key value label v)
  intro entries hv
  rw [check_dictionary path failFast hv, gatherUntil_eq_nil_iff (stopsEarly_nil _)]
  exact forall₂_congr fun e _ => by rw [entryIssues, List.append_eq_nil_iff]

theorem fieldIssues_eq_nil_iff {required : Bool} {members : List (String × Value)}
    {f : String × Schema} :
    fieldIssues required members path failFast f = [] ↔
      (required = true → (members.lookup f.1).isSome = true) ∧
        ∀ w ∈ members.lookup f.1, check f.2 w (path ++ [.key f.1]) failFast = [] := by
  rw [fieldIssues]
  cases members.lookup f.1 with
  | some w => simp
  | none => cases required <;> simp

theorem check_object_eq_nil_iff {required : Bool} {fields : List (String × Schema)} :
    check (.object required fields label) v path failFast = [] ↔
      ∃ members, v.members? = some members ∧
        ∀ f ∈ fields, fieldIssues required members path failFast f = [] := by
  apply check_eq_nil_iff_of_or_refuses (members_or_refuses required fields label v)
  intro members hv
  rw [check_object path failFast hv, gatherUntil_eq_nil_iff (stopsEarly_nil _)]

theorem check_union_eq_nil_iff {alternatives : List Schema} :
    check (.union alternatives label) v path failFast = [] ↔
      ∃ a ∈ alternatives, check a v path failFast = [] := by
  constructor
  · intro hnil
    rcases clean_or_refused alternatives v path failFast with h | h
    · exact h
    · rw [check_union_of_refused path failFast h] at hnil
      exact absurd hnil (List.cons_ne_nil _ _)
  · intro h
    exact check_union_of_clean path failFast h

theorem check_intersection_eq_nil_iff {members : List Schema} :
    check (.intersection members label) v path failFast = [] ↔
      ∀ m ∈ members, check m v path failFast = [] := by
  rw [check_intersection, gatherUntil_eq_nil_iff (stopsMembers_nil path failFast)]

/-! ## Acceptance is of the value alone -/

/-- Stops, skipped members and dropped causes decide nothing about acceptance. -/
theorem check_eq_nil_iff_check_eq_nil (s : Schema) (v : Value) (path path' : Path)
    (failFast failFast' : Bool) :
    s.check v path failFast = [] ↔ s.check v path' failFast' = [] := by
  induction s generalizing v path path' with
  | primitive p => rw [check_primitive_eq_nil_iff, check_primitive_eq_nil_iff]
  | literal c label => rw [check_literal_eq_nil_iff, check_literal_eq_nil_iff]
  | tuple items label ih =>
    rw [check_tuple_eq_nil_iff, check_tuple_eq_nil_iff]
    refine exists_congr fun elements => and_congr_right fun _ => ?_
    refine forall₂_congr fun part hpart => ?_
    have hitem : part.1.1 ∈ items :=
      (List.of_mem_zip (List.fst_mem_of_mem_zipIdx hpart)).1
    exact ih part.1.1 hitem part.1.2 _ _
  | array nonEmpty item label ih =>
    rw [check_array_eq_nil_iff, check_array_eq_nil_iff]
    refine exists_congr fun elements => and_congr_right fun _ => ?_
    exact forall₂_congr fun e _ => ih e.1 _ _
  | dictionary key value label ihkey ihvalue =>
    rw [check_dictionary_eq_nil_iff, check_dictionary_eq_nil_iff]
    refine exists_congr fun entries => and_congr_right fun _ => ?_
    exact forall₂_congr fun e _ => and_congr (ihkey e.1 _ _) (ihvalue e.2 _ _)
  | object required fields label ih =>
    rw [check_object_eq_nil_iff, check_object_eq_nil_iff]
    refine exists_congr fun members => and_congr_right fun _ => forall₂_congr fun f hf => ?_
    rw [fieldIssues_eq_nil_iff, fieldIssues_eq_nil_iff]
    exact and_congr_right fun _ => forall₂_congr fun w _ => ih f hf w _ _
  | union alternatives label ih =>
    rw [check_union_eq_nil_iff, check_union_eq_nil_iff]
    exact exists_congr fun a => and_congr_right fun ha => ih a ha v path path'
  | intersection members label ih =>
    rw [check_intersection_eq_nil_iff, check_intersection_eq_nil_iff]
    exact forall₂_congr fun m hm => ih m hm v path path'

theorem accepts_iff_check_eq_nil {s : Schema} : s.accepts v ↔ s.check v [] true = [] := by
  rw [accepts, List.isEmpty_iff]

theorem check_eq_nil_iff_accepts {s : Schema} : s.check v path failFast = [] ↔ s.accepts v := by
  rw [accepts_iff_check_eq_nil]
  exact check_eq_nil_iff_check_eq_nil s v path [] failFast true

theorem check_ne_nil_iff {s : Schema} (path : Path) (failFast : Bool) :
    s.check v path failFast ≠ [] ↔ s.accepts v = false := by
  rw [Ne, check_eq_nil_iff_accepts, Bool.not_eq_true]

/-! ## What a schema accepts -/

theorem forall_mem_zipIdx {α : Type} {P : α → Prop} (l : List α) :
    (∀ e ∈ l.zipIdx, P e.1) ↔ ∀ a ∈ l, P a := by
  conv_rhs => rw [← List.zipIdx_map_fst 0 l]
  rw [List.forall_mem_map]

theorem accepts_primitive {p : Primitive} : (Schema.primitive p).accepts v ↔ p.accepts v = true := by
  rw [accepts_iff_check_eq_nil, check_primitive_eq_nil_iff]

theorem accepts_literal {c : Constant} : (literal c label).accepts v ↔ c.StrictlyEquals v := by
  rw [accepts_iff_check_eq_nil, check_literal_eq_nil_iff]

theorem accepts_tuple {items : List Schema} :
    (tuple items label).accepts v ↔
      ∃ elements, v.elements? = some elements ∧ elements.length = items.length ∧
        ∀ part ∈ items.zip elements, part.1.accepts part.2 := by
  rw [accepts_iff_check_eq_nil, check_tuple_eq_nil_iff]
  simp only [elementIssues, check_eq_nil_iff_accepts, and_assoc]
  simp only [forall_mem_zipIdx (P := fun part : Schema × Value => part.1.accepts part.2 = true)]

theorem accepts_array {nonEmpty : Bool} {item : Schema} :
    (array nonEmpty item label).accepts v ↔
      ∃ elements, v.elements? = some elements ∧ (nonEmpty = true → elements ≠ []) ∧
        ∀ e ∈ elements, item.accepts e := by
  rw [accepts_iff_check_eq_nil, check_array_eq_nil_iff]
  simp only [check_eq_nil_iff_accepts, and_assoc]
  simp only [forall_mem_zipIdx (P := fun e => item.accepts e = true)]

theorem accepts_dictionary {key value : Schema} :
    (dictionary key value label).accepts v ↔
      ∃ entries, v.entries? = some entries ∧
        ∀ e ∈ entries, key.accepts e.1 ∧ value.accepts e.2 := by
  rw [accepts_iff_check_eq_nil, check_dictionary_eq_nil_iff]
  simp only [check_eq_nil_iff_accepts]

theorem accepts_object {required : Bool} {fields : List (String × Schema)} :
    (object required fields label).accepts v ↔
      ∃ members, v.members? = some members ∧ ∀ f ∈ fields,
        (required = true → (members.lookup f.1).isSome = true) ∧
          ∀ w ∈ members.lookup f.1, f.2.accepts w := by
  rw [accepts_iff_check_eq_nil, check_object_eq_nil_iff]
  simp only [fieldIssues_eq_nil_iff, check_eq_nil_iff_accepts]

theorem accepts_union {alternatives : List Schema} :
    (union alternatives label).accepts v ↔ ∃ a ∈ alternatives, a.accepts v := by
  rw [accepts_iff_check_eq_nil, check_union_eq_nil_iff]
  simp only [check_eq_nil_iff_accepts]

theorem accepts_intersection {members : List Schema} :
    (intersection members label).accepts v ↔ ∀ m ∈ members, m.accepts v := by
  rw [accepts_iff_check_eq_nil, check_intersection_eq_nil_iff]
  simp only [check_eq_nil_iff_accepts]

end GeoSchema.Schema
