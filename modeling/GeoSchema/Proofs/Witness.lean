import GeoSchema.Proofs.Acceptance
import GeoSchema.Proofs.Forest

/-!
# Issues are witnesses

Every issue that a check reports, at any depth, is true: its path leads to a value that meets a
part of the schema, and this part refuses the value for the reason that the issue gives.
-/

namespace GeoSchema.Schema

/-! ## Parts at the end of a path -/

/-- Following the steps from the value, the part `S` of the schema meets `w`. -/
inductive Visits : Schema → Value → Path → Schema → Value → Prop where
  | here (s : Schema) (v : Value) : Visits s v [] s v
  | item {items label v elements item element steps S w} {i : Nat}
    (hv : v.elements? = some elements) (hitem : items[i]? = some item)
    (helement : elements[i]? = some element) (h : Visits item element steps S w) :
    Visits (.tuple items label) v (.index i :: steps) S w
  | element {nonEmpty item label v elements element steps S w} {i : Nat}
    (hv : v.elements? = some elements) (helement : elements[i]? = some element)
    (h : Visits item element steps S w) :
    Visits (.array nonEmpty item label) v (.index i :: steps) S w
  | key {key value label v entries k x steps S w}
    (hv : v.entries? = some entries) (he : (k, x) ∈ entries) (h : Visits key k steps S w) :
    Visits (.dictionary key value label) v (.ofKey k :: steps) S w
  | content {key value label v entries k x steps S w}
    (hv : v.entries? = some entries) (he : (k, x) ∈ entries) (h : Visits value x steps S w) :
    Visits (.dictionary key value label) v (.ofKey k :: steps) S w
  | field {required fields label v entries name field x steps S w}
    (hv : v.entries? = some entries) (hfield : (name, field) ∈ fields)
    (he : (.text name, x) ∈ entries) (h : Visits field x steps S w) :
    Visits (.object required fields label) v (.key name :: steps) S w
  | alternative {alternatives label a v steps S w}
    (ha : a ∈ alternatives) (h : Visits a v steps S w) :
    Visits (.union alternatives label) v steps S w
  | member {members label m v steps S w}
    (hm : m ∈ members) (h : Visits m v steps S w) :
    Visits (.intersection members label) v steps S w

/-! ## What an issue says -/

/-- Why the schema refuses the value, by the kind of issue. -/
inductive Reason : Schema → Value → IssueKind → Prop where
  | onSight {s v kind} (h : Refuses s v kind) : Reason s v kind
  | alternatives {alternatives label v} (h : ∀ a ∈ alternatives, a.accepts v = false) :
    Reason (.union alternatives label) v .allAlternativesFailed

/-- Where the steps end, a part of the schema refuses the value. -/
def RefusedAt (s : Schema) (v : Value) (steps : Path) (issue : Issue) : Prop :=
  ∃ S w, Visits s v steps S w ∧ issue.value = w ∧ issue.expected = S.name ∧
    S.accepts w = false ∧ Reason S w issue.kind

/-- Where all steps but the last end, an object lacks a required field. -/
def MissingAt (s : Schema) (v : Value) (steps : Path) (issue : Issue) : Prop :=
  ∃ before fields label w members f,
    Visits s v before (.object true fields label) w ∧ w.members? = some members ∧ f ∈ fields ∧
      (∀ x, (f.1, x) ∉ members) ∧ steps = before ++ [.key f.1] ∧ issue.value = .null ∧
      issue.expected = f.2.name

/-- The issue stands under the path, and what it says is true. -/
def Witnessed (s : Schema) (v : Value) (path : Path) (issue : Issue) : Prop :=
  ∃ steps, issue.path = path ++ steps ∧
    (issue.kind ≠ .missingField ∧ RefusedAt s v steps issue ∨
      issue.kind = .missingField ∧ MissingAt s v steps issue)

/-! ## Witnesses of parts are witnesses of the whole -/

variable {s part : Schema} {v x : Value} {path : Path} {failFast : Bool} {issue : Issue}

theorem Reason.not_accepts {kind : IssueKind} (h : Reason s v kind) : s.accepts v = false := by
  cases h with
  | onSight h =>
    have hne : s.check v [] true ≠ [] := check_ne_nil_of_refuses h
    exact (check_ne_nil_iff _ _).mp hne
  | alternatives h =>
    rw [← Bool.not_eq_true, accepts_union]
    rintro ⟨a, ha, haccepts⟩
    rw [h a ha] at haccepts
    exact absurd haccepts (by decide)

theorem Reason.ne_missingField {kind : IssueKind} (h : Reason s v kind) : kind ≠ .missingField := by
  cases h with
  | onSight h => cases h <;> decide
  | alternatives _ => decide

theorem Witnessed.of_reason {kind : IssueKind} {causes : List Issue} (h : Reason s v kind) :
    Witnessed s v path { path, expected := s.name, kind, value := v, causes } :=
  ⟨[], (List.append_nil path).symm,
    Or.inl ⟨h.ne_missingField, s, v, .here s v, rfl, rfl, h.not_accepts, h⟩⟩

theorem Witnessed.lift {before : Path} (h : Witnessed part x (path ++ before) issue)
    (hvisits : ∀ {steps S w}, Visits part x steps S w → Visits s v (before ++ steps) S w) :
    Witnessed s v path issue := by
  obtain ⟨steps, hpath, htrue⟩ := h
  refine ⟨before ++ steps, by rw [hpath, List.append_assoc], ?_⟩
  rcases htrue with ⟨hkind, S, w, hS, hrest⟩ | ⟨hkind, place, fields, label, w, members, f, hw,
    hmembers, hf, habsent, hsteps, hrest⟩
  · exact Or.inl ⟨hkind, S, w, hvisits hS, hrest⟩
  · refine Or.inr ⟨hkind, before ++ place, fields, label, w, members, f, hvisits hw, hmembers, hf,
      habsent, ?_, hrest⟩
    rw [hsteps, List.append_assoc]

theorem Witnessed.lift_here (h : Witnessed part v path issue)
    (hvisits : ∀ {steps S w}, Visits part v steps S w → Visits s v steps S w) :
    Witnessed s v path issue := by
  rw [← List.append_nil path] at h
  exact h.lift hvisits

theorem Witnessed.of_inForest_refusal {kind : IssueKind} (hs : s.Refuses v kind)
    (h : issue.InForest (s.check v path failFast)) : Witnessed s v path issue := by
  rw [check_of_refuses path failFast hs, Issue.inForest_refusal_iff] at h
  rw [h]
  exact .of_reason (.onSight hs)

theorem witnessed_of_inForest_fieldIssues {required : Bool} {fields : List (String × Schema)}
    {label : Option String} {members : List (String × Value)} {f : String × Schema}
    (hv : v.members? = some members) (hf : f ∈ fields)
    (ih : ∀ w, issue.InForest (f.2.check w (path ++ [.key f.1]) failFast) →
      Witnessed f.2 w (path ++ [.key f.1]) issue)
    (h : issue.InForest (fieldIssues required members path failFast f)) :
    Witnessed (.object required fields label) v path issue := by
  rw [fieldIssues] at h
  cases hw : members.lookup f.1 with
  | some w =>
    rw [hw] at h
    obtain ⟨entries, hentries, hmem⟩ := Value.entry_of_mem_members hv
    have hentry := hmem w (Value.mem_of_lookup_eq_some hw)
    exact (ih w h).lift fun hS => .field hentries hf hentry hS
  | none =>
    rw [hw] at h
    cases required with
    | false => exact absurd h Issue.not_inForest_nil
    | true =>
      rw [if_pos rfl, Issue.inForest_refusal_iff] at h
      rw [h]
      exact ⟨[.key f.1], rfl, Or.inr ⟨rfl, [], fields, label, v, members, f, .here _ _, hv, hf,
        Value.not_mem_of_lookup_eq_none hw, rfl, rfl, rfl⟩⟩

/-! ## Every issue is a witness -/

/-- Every issue of a check, at any depth, is a witness. -/
theorem witnessed_of_inForest_check (s : Schema) (v : Value) (path : Path) (failFast : Bool)
    (issue : Issue) (h : issue.InForest (s.check v path failFast)) : Witnessed s v path issue := by
  induction s generalizing v path with
  | primitive p =>
    rcases accepts_or_refuses p v with hp | ⟨_, hrefuses⟩
    · rw [check_primitive path failFast hp] at h
      exact absurd h Issue.not_inForest_nil
    · exact .of_inForest_refusal hrefuses h
  | literal c label =>
    rcases strictlyEquals_or_refuses c label v with hc | ⟨_, hrefuses⟩
    · rw [check_literal path failFast hc] at h
      exact absurd h Issue.not_inForest_nil
    · exact .of_inForest_refusal hrefuses h
  | tuple items label ih =>
    rcases elements_or_refuses_tuple items label v with ⟨elements, hv, hlen⟩ | ⟨_, hrefuses⟩
    · rw [check_tuple path failFast hv hlen] at h
      obtain ⟨⟨⟨item, element⟩, i⟩, hpart, h⟩ := h.exists_of_gatherUntil
      rw [List.mk_mem_zipIdx_iff_getElem?, List.getElem?_zip_eq_some] at hpart
      have hitem : item ∈ items := List.mem_of_getElem? hpart.1
      exact (ih item hitem element _ h).lift fun hS => .item hv hpart.1 hpart.2 hS
    · exact .of_inForest_refusal hrefuses h
  | array nonEmpty item label ih =>
    rcases elements_or_refuses_array nonEmpty item label v with ⟨elements, hv, hne⟩ | ⟨_, hrefuses⟩
    · rw [check_array path failFast hv hne] at h
      obtain ⟨⟨element, i⟩, hpart, h⟩ := h.exists_of_gatherUntil
      rw [List.mk_mem_zipIdx_iff_getElem?] at hpart
      exact (ih element _ h).lift fun hS => .element hv hpart hS
    · exact .of_inForest_refusal hrefuses h
  | dictionary key value label ihkey ihvalue =>
    rcases entries_or_refuses key value label v with ⟨entries, hv⟩ | ⟨_, hrefuses⟩
    · rw [check_dictionary path failFast hv] at h
      obtain ⟨⟨k, x⟩, he, h⟩ := h.exists_of_gatherUntil
      -- The key and the content of an entry stand under the same step.
      rcases Issue.inForest_append_iff.mp h with h | h
      · exact (ihkey k _ h).lift fun hS => .key hv he hS
      · exact (ihvalue x _ h).lift fun hS => .content hv he hS
    · exact .of_inForest_refusal hrefuses h
  | object required fields label ih =>
    rcases members_or_refuses required fields label v with ⟨members, hv⟩ | ⟨_, hrefuses⟩
    · rw [check_object path failFast hv] at h
      obtain ⟨f, hf, h⟩ := h.exists_of_gatherUntil
      exact witnessed_of_inForest_fieldIssues hv hf (fun w => ih f hf w _) h
    · exact .of_inForest_refusal hrefuses h
  | union alternatives label ih =>
    rcases clean_or_refused alternatives v path failFast with hclean | hrefused
    · rw [check_union_of_clean path failFast hclean] at h
      exact absurd h Issue.not_inForest_nil
    · rw [check_union_of_refused path failFast hrefused, Issue.inForest_singleton_iff] at h
      rcases h with rfl | h
      · have hnone : ∀ a ∈ alternatives, a.accepts v = false := by
          intro a ha
          exact (check_ne_nil_iff path failFast).mp (hrefused a ha)
        exact .of_reason (.alternatives hnone)
      · -- A cause is an issue of an alternative, which meets the same value.
        obtain ⟨a, ha, h⟩ := h.exists_of_flatMap
        exact (ih a ha v path h).lift_here fun hS => .alternative ha hS
  | intersection members label ih =>
    rw [check_intersection] at h
    obtain ⟨m, hm, h⟩ := h.exists_of_gatherUntil
    exact (ih m hm v path h).lift_here fun hS => .member hm hS

theorem witnessed_missing_below_union :
    Issue.InForest (.refusal [.key "True", .key "a"] "string" .missingField .null)
      (check (.dictionary (.primitive .any)
        (.union [.primitive .number, .object true [("a", .primitive .text)] none] none) none)
        (.dict [(.bool true, .dict [])]) [] true) ∧
    Witnessed (.dictionary (.primitive .any)
        (.union [.primitive .number, .object true [("a", .primitive .text)] none] none) none)
      (.dict [(.bool true, .dict [])]) []
      (.refusal [.key "True", .key "a"] "string" .missingField .null) := by
  refine ⟨?_, witnessed_of_inForest_check _ _ _ true _ ?_⟩
  · exact .cause List.mem_cons_self (.top (List.mem_cons_of_mem _ List.mem_cons_self))
  · exact .cause List.mem_cons_self (.top (List.mem_cons_of_mem _ List.mem_cons_self))

end GeoSchema.Schema
