import GeoSchema.Grammar
import GeoSchema.Proofs.Thinning

/-!
# How much a fail-fast report holds

A fail-fast report stops at the first part that has issues, so that its size depends on the schema and
not on the value. It may hold more than one issue only through dictionaries, which blame an entry for
its key and for its value.
-/

namespace GeoSchema

theorem length_gatherUntil_le {α : Type} {stop : List Issue → Bool} {issuesOf : α → List Issue}
    {parts : List α} {n : Nat} (hstop : ∀ found, stop found = !found.isEmpty)
    (h : ∀ part ∈ parts, (issuesOf part).length ≤ n) :
    (gatherUntil stop issuesOf parts).length ≤ n := by
  induction parts with
  | nil => exact Nat.zero_le n
  | cons part rest ih =>
    obtain ⟨hpart, hrest⟩ := List.forall_mem_cons.mp h
    rw [gatherUntil, hstop]
    cases hfound : issuesOf part with
    | nil => exact ih hrest
    | cons first others =>
      rw [hfound] at hpart
      exact hpart

namespace Schema

/-! ## The bound -/

mutual

/-- A refused key does not keep the value of its entry from being checked. -/
def issueBound : Schema → Nat
  | .primitive _ => 1
  | .literal _ _ => 1
  | .tuple items _ => max 1 (largestBound items)
  | .array _ item _ => max 1 (issueBound item)
  | .dictionary key value _ => issueBound key + issueBound value
  | .object _ fields _ => max 1 (largestFieldBound fields)
  | .union _ _ => 1
  | .intersection members _ => largestBound members

/-- The largest bound, or 1 if there are none. -/
def largestBound : List Schema → Nat
  | [] => 1
  | s :: rest => max (issueBound s) (largestBound rest)

def largestFieldBound : List (String × Schema) → Nat
  | [] => 1
  | (_, s) :: rest => max (issueBound s) (largestFieldBound rest)

end

variable {s : Schema} {schemas : List Schema}

theorem issueBound_le_largestBound (h : s ∈ schemas) : s.issueBound ≤ largestBound schemas := by
  induction schemas with
  | nil => exact absurd h List.not_mem_nil
  | cons first rest ih =>
    rw [largestBound]
    rcases List.mem_cons.mp h with rfl | h
    · exact Nat.le_max_left _ _
    · exact (ih h).trans (Nat.le_max_right _ _)

theorem largestFieldBound_eq (fields : List (String × Schema)) :
    largestFieldBound fields = largestBound (fields.map (·.2)) := by
  induction fields with
  | nil => rfl
  | cons f rest ih => rw [largestFieldBound, ih, List.map_cons, largestBound]

theorem issueBound_le_largestFieldBound {fields : List (String × Schema)} {f : String × Schema}
    (h : f ∈ fields) : f.2.issueBound ≤ largestFieldBound fields := by
  rw [largestFieldBound_eq]
  exact issueBound_le_largestBound (List.mem_map_of_mem h)

theorem largestBound_pos (schemas : List Schema) : 0 < largestBound schemas := by
  induction schemas with
  | nil => exact Nat.one_pos
  | cons s rest ih =>
    rw [largestBound]
    exact ih.trans_le (Nat.le_max_right _ _)

theorem issueBound_pos (s : Schema) : 0 < s.issueBound := by
  induction s with
  | primitive p => exact Nat.one_pos
  | literal c label => exact Nat.one_pos
  | tuple items label => exact lt_max_of_lt_left Nat.one_pos
  | array nonEmpty item label => exact lt_max_of_lt_left Nat.one_pos
  | dictionary key value label ihkey _ => exact Nat.add_pos_left ihkey _
  | object required fields label => exact lt_max_of_lt_left Nat.one_pos
  | union alternatives label => exact Nat.one_pos
  | intersection members label => exact largestBound_pos members

theorem exists_issueBound_eq_largestBound (hne : schemas ≠ []) :
    ∃ s ∈ schemas, largestBound schemas = s.issueBound := by
  induction schemas with
  | nil => exact absurd rfl hne
  | cons s rest ih =>
    rw [largestBound]
    cases rest with
    | nil => exact ⟨s, List.mem_cons_self, Nat.max_eq_left (issueBound_pos s)⟩
    | cons next later =>
      obtain ⟨largest, hmem, hlargest⟩ := ih (List.cons_ne_nil _ _)
      rcases Nat.le_total (largestBound (next :: later)) s.issueBound with hle | hle
      · exact ⟨s, List.mem_cons_self, Nat.max_eq_left hle⟩
      · exact ⟨largest, List.mem_cons_of_mem _ hmem, (Nat.max_eq_right hle).trans hlargest⟩

/-! ## Fail-fast reports -/

theorem length_fieldIssues_le {required : Bool} {members : List (String × Value)} {path : Path}
    {f : String × Schema} {n : Nat} (hpos : 0 < n)
    (h : ∀ w, (f.2.check w (path ++ [.key f.1]) true).length ≤ n) :
    (fieldIssues required members path true f).length ≤ n := by
  unfold fieldIssues
  split
  · exact h _
  · split
    · exact hpos
    · exact Nat.zero_le n

theorem length_check_le_of_refuses {v : Value} {kind : IssueKind} (path : Path) (failFast : Bool)
    (h : s.Refuses v kind) : (s.check v path failFast).length ≤ s.issueBound := by
  rw [check_of_refuses path failFast h]
  exact issueBound_pos s

theorem length_check_le_issueBound (s : Schema) (v : Value) (path : Path) :
    (s.check v path true).length ≤ s.issueBound := by
  induction s generalizing v path with
  | primitive p =>
    rcases accepts_or_refuses p v with h | ⟨_, h⟩
    · rw [check_primitive path true h]
      exact Nat.zero_le _
    · exact length_check_le_of_refuses path true h
  | literal c label =>
    rcases strictlyEquals_or_refuses c label v with h | ⟨_, h⟩
    · rw [check_literal path true h]
      exact Nat.zero_le _
    · exact length_check_le_of_refuses path true h
  | tuple items label ih =>
    rcases elements_or_refuses_tuple items label v with ⟨elements, hv, hlen⟩ | ⟨_, h⟩
    · rw [check_tuple path true hv hlen, issueBound]
      refine length_gatherUntil_le stopsEarly_true fun part hpart => ?_
      have hitem : part.1.1 ∈ items := (List.of_mem_zip (List.fst_mem_of_mem_zipIdx hpart)).1
      exact (ih part.1.1 hitem _ _).trans
        ((issueBound_le_largestBound hitem).trans (Nat.le_max_right _ _))
    · exact length_check_le_of_refuses path true h
  | array nonEmpty item label ih =>
    rcases elements_or_refuses_array nonEmpty item label v with ⟨elements, hv, hne⟩ | ⟨_, h⟩
    · rw [check_array path true hv hne, issueBound]
      refine length_gatherUntil_le stopsEarly_true fun e _ => ?_
      exact (ih _ _).trans (Nat.le_max_right _ _)
    · exact length_check_le_of_refuses path true h
  | dictionary key value label ihkey ihvalue =>
    rcases entries_or_refuses key value label v with ⟨entries, hv⟩ | ⟨_, h⟩
    · rw [check_dictionary path true hv, issueBound]
      refine length_gatherUntil_le stopsEarly_true fun e _ => ?_
      unfold entryIssues
      rw [List.length_append]
      exact Nat.add_le_add (ihkey _ _) (ihvalue _ _)
    · exact length_check_le_of_refuses path true h
  | object required fields label ih =>
    rcases members_or_refuses required fields label v with ⟨members, hv⟩ | ⟨_, h⟩
    · rw [check_object path true hv, issueBound]
      refine length_gatherUntil_le stopsEarly_true fun f hf => ?_
      have hfield := issueBound_le_largestFieldBound hf
      refine length_fieldIssues_le (lt_max_of_lt_left Nat.one_pos) fun w => ?_
      exact (ih f hf _ _).trans (hfield.trans (Nat.le_max_right _ _))
    · exact length_check_le_of_refuses path true h
  | union alternatives label =>
    rcases clean_or_refused alternatives v path true with hclean | hrefused
    · rw [check_union_of_clean path true hclean]
      exact Nat.zero_le _
    · rw [check_union_of_refused path true hrefused]
      exact le_rfl
  | intersection members label ih =>
    rw [check_intersection, issueBound]
    refine length_gatherUntil_le (stopsMembers_true path) fun m hm => ?_
    exact (ih m hm _ _).trans (issueBound_le_largestBound hm)

theorem issueBound_catalogue : ∀ entry ∈ Grammar.catalogue, entry.2.issueBound = 1 := by
  decide

/-- A fail-fast report holds no more issues than the bound of the schema. -/
theorem failFast_report_bounded_by_schema :
    (∀ (s : Schema) v path, (s.check v path true).length ≤ s.issueBound) ∧
    (∀ members label, members ≠ [] →
      (∃ m ∈ members, issueBound (.intersection members label) = m.issueBound) ∧
      ∀ m ∈ members, m.issueBound ≤ issueBound (.intersection members label)) ∧
    ∀ entry ∈ Grammar.catalogue, ∀ v path, (entry.2.check v path true).length ≤ 1 := by
  refine ⟨length_check_le_issueBound, ?_, ?_⟩
  · intro members label hne
    rw [issueBound]
    exact ⟨exists_issueBound_eq_largestBound hne, fun m hm => issueBound_le_largestBound hm⟩
  · intro entry hentry v path
    have hbound := length_check_le_issueBound entry.2 v path
    rw [issueBound_catalogue entry hentry] at hbound
    exact hbound

-- The bound is reached: both issues of one entry.
example : (check (.dictionary Grammar.text Grammar.number none) (.dict [(.int 1, .null), (.null, .null)])
    [] true).map (·.path) = [[.index 1], [.index 1]] := rfl

end Schema

end GeoSchema
