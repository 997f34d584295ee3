import GeoSchema.Proofs.Gather
import GeoSchema.Proofs.Parts

/-!
# The forest of issues

The issues of a check, with their causes at every depth.
-/

namespace GeoSchema

namespace Issue

/-- One of these issues, or below one of them. -/
inductive InForest (issue : Issue) : List Issue → Prop where
  | top {issues} (h : issue ∈ issues) : InForest issue issues
  | cause {issues parent} (hparent : parent ∈ issues) (h : InForest issue parent.causes) :
    InForest issue issues

variable {issue : Issue}

theorem not_inForest_nil : ¬ issue.InForest [] := by
  intro h
  cases h with
  | top h => exact List.not_mem_nil h
  | cause hparent _ => exact List.not_mem_nil hparent

theorem InForest.mono {issues more : List Issue} (h : issue.InForest issues)
    (hmem : ∀ i ∈ issues, i ∈ more) : issue.InForest more := by
  cases h with
  | top h => exact .top (hmem _ h)
  | cause hparent h => exact .cause (hmem _ hparent) h

theorem inForest_append_iff {issues more : List Issue} :
    issue.InForest (issues ++ more) ↔ issue.InForest issues ∨ issue.InForest more := by
  constructor
  · intro h
    cases h with
    | top h =>
      rcases List.mem_append.mp h with h | h
      · exact Or.inl (.top h)
      · exact Or.inr (.top h)
    | cause hparent h =>
      rcases List.mem_append.mp hparent with hparent | hparent
      · exact Or.inl (.cause hparent h)
      · exact Or.inr (.cause hparent h)
  · rintro (h | h)
    · exact h.mono fun _ => List.mem_append_left _
    · exact h.mono fun _ => List.mem_append_right _

theorem inForest_singleton_iff {root : Issue} :
    issue.InForest [root] ↔ issue = root ∨ issue.InForest root.causes := by
  constructor
  · intro h
    cases h with
    | top h => exact Or.inl (List.mem_singleton.mp h)
    | cause hparent h =>
      rw [List.mem_singleton] at hparent
      exact Or.inr (hparent ▸ h)
  · rintro (rfl | h)
    · exact .top List.mem_cons_self
    · exact .cause List.mem_cons_self h

theorem inForest_refusal_iff {path : Path} {expected : String} {kind : IssueKind} {v : Value} :
    issue.InForest [.refusal path expected kind v] ↔ issue = .refusal path expected kind v := by
  rw [inForest_singleton_iff, or_iff_left]
  exact not_inForest_nil

section

variable {α : Type} {issuesOf : α → List Issue} {parts : List α}

theorem InForest.exists_of_forall_mem {issues : List Issue} (h : issue.InForest issues)
    (hparts : ∀ i ∈ issues, ∃ part ∈ parts, i ∈ issuesOf part) :
    ∃ part ∈ parts, issue.InForest (issuesOf part) := by
  cases h with
  | top h =>
    obtain ⟨part, hpart, h⟩ := hparts issue h
    exact ⟨part, hpart, .top h⟩
  | cause hparent h =>
    obtain ⟨part, hpart, hparent⟩ := hparts _ hparent
    exact ⟨part, hpart, .cause hparent h⟩

theorem InForest.exists_of_gatherUntil {stop : List Issue → Bool}
    (h : issue.InForest (gatherUntil stop issuesOf parts)) :
    ∃ part ∈ parts, issue.InForest (issuesOf part) := by
  apply h.exists_of_forall_mem
  intro i hi
  exact exists_of_mem_gatherUntil hi

theorem InForest.exists_of_flatMap (h : issue.InForest (parts.flatMap issuesOf)) :
    ∃ part ∈ parts, issue.InForest (issuesOf part) := by
  apply h.exists_of_forall_mem
  intro i hi
  exact List.mem_flatMap.mp hi

end

end Issue

/-! ## The forest of a check -/

namespace Schema

open Issue

variable {P : Issue → Prop} {test : Schema → Bool} {failFast : Bool} {issue : Issue}

/-- Something is refused on sight, a field is missing, or all alternatives have failed. -/
theorem forall_inForest_check
    (onSight : ∀ {s v kind} path, test s = true → Refuses s v kind → P (.refusal path s.name kind v))
    (missing : ∀ {field} path, test field = true →
      P (.refusal path (name field) .missingField .null))
    (refused : ∀ {alternatives v} path label, test (.union alternatives label) = true →
      (∀ a ∈ alternatives, check a v path failFast ≠ []) →
      P { path, expected := name (.union alternatives label), kind := .allAlternativesFailed,
          value := v, causes := alternatives.flatMap fun a => check a v path failFast })
    {s : Schema} (hs : s.throughout test = true) {v : Value} {path : Path}
    (h : issue.InForest (s.check v path failFast)) : P issue := by
  have hrefusal {s : Schema} {v : Value} {path : Path} {kind : IssueKind} (hs : s.throughout test = true)
      (hrefuses : s.Refuses v kind) (h : issue.InForest (s.check v path failFast)) : P issue := by
    rw [check_of_refuses path failFast hrefuses, inForest_refusal_iff] at h
    rw [h]
    exact onSight path (throughout_iff.mp hs).1 hrefuses
  induction s generalizing v path with
  | primitive p =>
    rcases accepts_or_refuses p v with hp | ⟨_, hrefuses⟩
    · rw [check_primitive path failFast hp] at h
      exact absurd h not_inForest_nil
    · exact hrefusal hs hrefuses h
  | literal c label =>
    rcases strictlyEquals_or_refuses c label v with hc | ⟨_, hrefuses⟩
    · rw [check_literal path failFast hc] at h
      exact absurd h not_inForest_nil
    · exact hrefusal hs hrefuses h
  | tuple items label ih =>
    rcases elements_or_refuses_tuple items label v with ⟨elements, hv, hlen⟩ | ⟨_, hrefuses⟩
    · rw [check_tuple path failFast hv hlen] at h
      obtain ⟨part, hpart, h⟩ := h.exists_of_gatherUntil
      have hitem : part.1.1 ∈ items := (List.of_mem_zip (List.fst_mem_of_mem_zipIdx hpart)).1
      exact ih part.1.1 hitem (throughout_part hs hitem) h
    · exact hrefusal hs hrefuses h
  | array nonEmpty item label ih =>
    rcases elements_or_refuses_array nonEmpty item label v with ⟨elements, hv, hne⟩ | ⟨_, hrefuses⟩
    · rw [check_array path failFast hv hne] at h
      obtain ⟨e, _, h⟩ := h.exists_of_gatherUntil
      exact ih (throughout_part hs List.mem_cons_self) h
    · exact hrefusal hs hrefuses h
  | dictionary key value label ihkey ihvalue =>
    rcases entries_or_refuses key value label v with ⟨entries, hv⟩ | ⟨_, hrefuses⟩
    · rw [check_dictionary path failFast hv] at h
      obtain ⟨e, _, h⟩ := h.exists_of_gatherUntil
      rcases inForest_append_iff.mp h with h | h
      · exact ihkey (throughout_part hs List.mem_cons_self) h
      · exact ihvalue (throughout_part hs (List.mem_cons_of_mem _ List.mem_cons_self)) h
    · exact hrefusal hs hrefuses h
  | object required fields label ih =>
    rcases members_or_refuses required fields label v with ⟨members, hv⟩ | ⟨_, hrefuses⟩
    · rw [check_object path failFast hv] at h
      obtain ⟨f, hf, h⟩ := h.exists_of_gatherUntil
      have hfield := throughout_part hs (List.mem_map_of_mem hf)
      unfold fieldIssues at h
      split at h
      · exact ih f hf hfield h
      · split at h
        · rw [inForest_refusal_iff] at h
          rw [h]
          exact missing _ (throughout_iff.mp hfield).1
        · exact absurd h not_inForest_nil
    · exact hrefusal hs hrefuses h
  | union alternatives label ih =>
    rcases clean_or_refused alternatives v path failFast with hclean | hrefused
    · rw [check_union_of_clean path failFast hclean] at h
      exact absurd h not_inForest_nil
    · rw [check_union_of_refused path failFast hrefused, inForest_singleton_iff] at h
      rcases h with rfl | h
      · exact refused path label (throughout_iff.mp hs).1 hrefused
      · obtain ⟨a, ha, h⟩ := h.exists_of_flatMap
        exact ih a ha (throughout_part hs ha) h
  | intersection members label ih =>
    rw [check_intersection] at h
    obtain ⟨m, hm, h⟩ := h.exists_of_gatherUntil
    exact ih m hm (throughout_part hs hm) h

end Schema

end GeoSchema
