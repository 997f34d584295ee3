import GeoSchema.Proofs.OneLine
import GeoSchema.Proofs.Witness

/-!
# Where keys in paths come from

A check writes two kinds of key into a path: those that the schema declares, and those of entries that it
refuses. An entry that is accepted leaves no trace, whatever its key looks like.
-/

namespace GeoSchema.Schema

open Issue

variable {s part : Schema} {v x : Value} {path : Path} {failFast : Bool} {issue : Issue} {name : String}

/-- A schema declares the key, or a dictionary refuses an entry that it leads to. -/
inductive KeyOrigin (s : Schema) (v : Value) (name : String) : Prop where
  | declared {steps S w} (h : Visits s v steps S w) (hname : name ∈ S.fieldKeys) : KeyOrigin s v name
  | entry {steps key value label w entries k content}
    (h : Visits s v steps (.dictionary key value label) w) (hentries : w.entries? = some entries)
    (he : (k, content) ∈ entries) (hrefused : key.accepts k = false ∨ value.accepts content = false)
    (hname : Segment.ofKey k = .key name) : KeyOrigin s v name

theorem KeyOrigin.lift {place : Path → Path} (h : KeyOrigin part x name)
    (hvisits : ∀ {steps S w}, Visits part x steps S w → Visits s v (place steps) S w) :
    KeyOrigin s v name := by
  cases h with
  | declared h hname => exact .declared (hvisits h) hname
  | entry h hentries he hrefused hname => exact .entry (hvisits h) hentries he hrefused hname

/-- Every key on the way to the issue has an origin. -/
def Traced (s : Schema) (v : Value) (path : Path) (issue : Issue) : Prop :=
  ∃ steps, issue.path = path ++ steps ∧ ∀ name, .key name ∈ steps → s.KeyOrigin v name

theorem Traced.of_path_eq (h : issue.path = path) : Traced s v path issue :=
  ⟨[], by simpa using h, by simp⟩

theorem Traced.lift_here (h : Traced part v path issue)
    (hvisits : ∀ {steps S w}, Visits part v steps S w → Visits s v steps S w) :
    Traced s v path issue := by
  obtain ⟨steps, hpath, hkeys⟩ := h
  exact ⟨steps, hpath, fun name hname => (hkeys name hname).lift hvisits⟩

theorem Traced.lift {step : Segment} (h : Traced part x (path ++ [step]) issue)
    (hstep : ∀ name, step = .key name → s.KeyOrigin v name)
    (hvisits : ∀ {steps S w}, Visits part x steps S w → Visits s v (step :: steps) S w) :
    Traced s v path issue := by
  obtain ⟨steps, hpath, hkeys⟩ := h
  refine ⟨step :: steps, by simpa using hpath, fun name hname => ?_⟩
  rcases List.mem_cons.mp hname with hhere | hlater
  · exact hstep name hhere.symm
  · exact (hkeys name hlater).lift hvisits

theorem Traced.of_inForest_refusal {kind : IssueKind} (hrefuses : s.Refuses v kind)
    (h : issue.InForest (s.check v path failFast)) : Traced s v path issue := by
  rw [check_of_refuses path failFast hrefuses, inForest_refusal_iff] at h
  apply Traced.of_path_eq
  rw [h, refusal]

theorem refuses_of_inForest_check (h : issue.InForest (s.check v path failFast)) : s.accepts v = false := by
  rw [← check_ne_nil_iff path failFast]
  intro hnil
  rw [hnil] at h
  exact not_inForest_nil h

theorem traced_of_inForest_fieldIssues {required : Bool} {fields : List (String × Schema)}
    {label : Option String} {members : List (String × Value)} {f : String × Schema}
    (hv : v.members? = some members) (hf : f ∈ fields)
    (ih : ∀ w, issue.InForest (f.2.check w (path ++ [.key f.1]) failFast) →
      Traced f.2 w (path ++ [.key f.1]) issue)
    (h : issue.InForest (fieldIssues required members path failFast f)) :
    Traced (.object required fields label) v path issue := by
  have hdeclared : ∀ name, Segment.key f.1 = .key name → (object required fields label).KeyOrigin v name := by
    rintro name ⟨⟩
    exact .declared (.here _ _) (List.mem_map_of_mem hf)
  unfold fieldIssues at h
  split at h
  · rename_i w hw
    obtain ⟨entries, hentries, hmem⟩ := Value.entry_of_mem_members hv
    have hentry := hmem w (Value.mem_of_lookup_eq_some hw)
    exact (ih w h).lift hdeclared fun hS => .field hentries hf hentry hS
  · split at h
    · rw [inForest_refusal_iff] at h
      rw [h]
      exact ⟨[.key f.1], rfl, by simpa using hdeclared⟩
    · exact absurd h not_inForest_nil

theorem traced_of_inForest_check (h : issue.InForest (s.check v path failFast)) :
    Traced s v path issue := by
  induction s generalizing v path with
  | primitive p =>
    rcases accepts_or_refuses p v with hp | ⟨_, hrefuses⟩
    · rw [check_primitive path failFast hp] at h
      exact absurd h not_inForest_nil
    · exact .of_inForest_refusal hrefuses h
  | literal c label =>
    rcases strictlyEquals_or_refuses c label v with hc | ⟨_, hrefuses⟩
    · rw [check_literal path failFast hc] at h
      exact absurd h not_inForest_nil
    · exact .of_inForest_refusal hrefuses h
  | tuple items label ih =>
    rcases elements_or_refuses_tuple items label v with ⟨elements, hv, hlen⟩ | ⟨_, hrefuses⟩
    · rw [check_tuple path failFast hv hlen] at h
      obtain ⟨⟨⟨item, element⟩, i⟩, hpart, h⟩ := h.exists_of_gatherUntil
      rw [List.mk_mem_zipIdx_iff_getElem?, List.getElem?_zip_eq_some] at hpart
      have hitem : item ∈ items := List.mem_of_getElem? hpart.1
      exact (ih item hitem h).lift (by simp) fun hS => .item hv hpart.1 hpart.2 hS
    · exact .of_inForest_refusal hrefuses h
  | array nonEmpty item label ih =>
    rcases elements_or_refuses_array nonEmpty item label v with ⟨elements, hv, hne⟩ | ⟨_, hrefuses⟩
    · rw [check_array path failFast hv hne] at h
      obtain ⟨⟨element, i⟩, hpart, h⟩ := h.exists_of_gatherUntil
      rw [List.mk_mem_zipIdx_iff_getElem?] at hpart
      exact (ih h).lift (by simp) fun hS => .element hv hpart hS
    · exact .of_inForest_refusal hrefuses h
  | dictionary key value label ihkey ihvalue =>
    rcases entries_or_refuses key value label v with ⟨entries, hv⟩ | ⟨_, hrefuses⟩
    · rw [check_dictionary path failFast hv] at h
      obtain ⟨⟨k, content⟩, he, h⟩ := h.exists_of_gatherUntil
      -- An issue under an entry tells that its key or its content is refused.
      rcases inForest_append_iff.mp h with h | h
      · have hrefused : key.accepts k = false := refuses_of_inForest_check h
        exact (ihkey h).lift (fun name => .entry (.here _ _) hv he (Or.inl hrefused))
          fun hS => .key hv he hS
      · have hrefused : value.accepts content = false := refuses_of_inForest_check h
        exact (ihvalue h).lift (fun name => .entry (.here _ _) hv he (Or.inr hrefused))
          fun hS => .content hv he hS
    · exact .of_inForest_refusal hrefuses h
  | object required fields label ih =>
    rcases members_or_refuses required fields label v with ⟨members, hv⟩ | ⟨_, hrefuses⟩
    · rw [check_object path failFast hv] at h
      obtain ⟨f, hf, h⟩ := h.exists_of_gatherUntil
      exact traced_of_inForest_fieldIssues hv hf (fun w => ih f hf) h
    · exact .of_inForest_refusal hrefuses h
  | union alternatives label ih =>
    rcases clean_or_refused alternatives v path failFast with hclean | hrefused
    · rw [check_union_of_clean path failFast hclean] at h
      exact absurd h not_inForest_nil
    · rw [check_union_of_refused path failFast hrefused, inForest_singleton_iff] at h
      rcases h with rfl | h
      · exact .of_path_eq rfl
      · obtain ⟨a, ha, h⟩ := h.exists_of_flatMap
        exact (ih a ha h).lift_here fun hS => .alternative ha hS
  | intersection members label ih =>
    rw [check_intersection] at h
    obtain ⟨m, hm, h⟩ := h.exists_of_gatherUntil
    exact (ih m hm h).lift_here fun hS => .member hm hS

end GeoSchema.Schema
