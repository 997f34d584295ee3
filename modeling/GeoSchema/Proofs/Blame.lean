import GeoSchema.Proofs.ObjectReports

/-!
# What a container blames

A container is reported child by child. A full report blames all children that fail, each under its own
step and in order; a report that stops early blames the first of them and no other.
-/

namespace GeoSchema

/-! ## Reports step by step -/

/-- The issues stand under these steps, in order, and at least one under each. -/
inductive BlamesInOrder (path : Path) : List Segment → List Issue → Prop where
  | nil : BlamesInOrder path [] []
  | cons {step : Segment} {steps : List Segment} {block later : List Issue} (hne : block ≠ [])
    (hunder : ∀ issue ∈ block, path ++ [step] <+: issue.path) (h : BlamesInOrder path steps later) :
    BlamesInOrder path (step :: steps) (block ++ later)

theorem step_eq_of_common_place {path place : Path} {x y : Segment} (hx : path ++ [x] <+: place)
    (hy : path ++ [y] <+: place) : x = y := by
  by_contra hne
  exact not_prefix_of_segment_ne hne hx hy (List.prefix_refl _)

namespace BlamesInOrder

variable {path : Path} {steps : List Segment} {issues : List Issue}

theorem singleton {step : Segment} (hne : issues ≠ [])
    (hunder : ∀ issue ∈ issues, path ++ [step] <+: issue.path) : BlamesInOrder path [step] issues := by
  rw [← List.append_nil issues]
  exact .cons hne hunder .nil

theorem exists_step (h : BlamesInOrder path steps issues) {issue : Issue} (hissue : issue ∈ issues) :
    ∃ step ∈ steps, path ++ [step] <+: issue.path := by
  induction h with
  | nil => exact absurd hissue List.not_mem_nil
  | cons hne hunder _ ih =>
    rcases List.mem_append.mp hissue with hissue | hissue
    · exact ⟨_, List.mem_cons_self, hunder issue hissue⟩
    · obtain ⟨step, hstep, hprefix⟩ := ih hissue
      exact ⟨step, List.mem_cons_of_mem _ hstep, hprefix⟩

theorem exists_issue (h : BlamesInOrder path steps issues) {step : Segment} (hstep : step ∈ steps) :
    ∃ issue ∈ issues, path ++ [step] <+: issue.path := by
  induction h with
  | nil => exact absurd hstep List.not_mem_nil
  | cons hne hunder _ ih =>
    rcases List.mem_cons.mp hstep with rfl | hstep
    · obtain ⟨issue, hissue⟩ := List.exists_mem_of_ne_nil _ hne
      exact ⟨issue, List.mem_append_left _ hissue, hunder issue hissue⟩
    · obtain ⟨issue, hissue, hprefix⟩ := ih hstep
      exact ⟨issue, List.mem_append_right _ hissue, hprefix⟩

theorem mem_iff (h : BlamesInOrder path steps issues) {step : Segment} :
    (∃ issue ∈ issues, path ++ [step] <+: issue.path) ↔ step ∈ steps := by
  constructor
  · rintro ⟨issue, hissue, hprefix⟩
    obtain ⟨other, hother, hprefix'⟩ := h.exists_step hissue
    rw [step_eq_of_common_place hprefix hprefix']
    exact hother
  · exact h.exists_issue

theorem pairwise (h : BlamesInOrder path steps issues) {R : Segment → Segment → Prop}
    (hrefl : ∀ step ∈ steps, R step step) (hsteps : steps.Pairwise R) :
    issues.Pairwise fun a b =>
      ∃ x y, R x y ∧ path ++ [x] <+: a.path ∧ path ++ [y] <+: b.path := by
  induction h with
  | nil => exact List.Pairwise.nil
  | @cons step steps block later hne hunder hlater ih =>
    obtain ⟨hstep, hrefl⟩ := List.forall_mem_cons.mp hrefl
    obtain ⟨hfirst, hsteps⟩ := List.pairwise_cons.mp hsteps
    have hblock : block.Pairwise fun a b =>
        ∃ x y, R x y ∧ path ++ [x] <+: a.path ∧ path ++ [y] <+: b.path := by
      rw [List.pairwise_iff_forall_sublist]
      intro a b hab
      have ha := hunder a (hab.subset List.mem_cons_self)
      have hb := hunder b (hab.subset (List.mem_cons_of_mem _ List.mem_cons_self))
      exact ⟨step, step, hstep, ha, hb⟩
    refine List.pairwise_append.mpr ⟨hblock, ih hrefl hsteps, ?_⟩
    intro a ha b hb
    obtain ⟨other, hother, hprefix⟩ := hlater.exists_step hb
    exact ⟨step, other, hfirst other hother, hunder a ha, hprefix⟩

end BlamesInOrder

/-! ## Loops over children -/

def firstOrAll (failFast : Bool) (steps : List Segment) : List Segment :=
  if failFast then steps.take 1 else steps

section

variable {α : Type} {issuesOf : α → List Issue} {fails : α → Bool} {step : α → Segment} {path : Path}
  {children : List α}

theorem blamesInOrder_gatherUntil (failFast : Bool)
    (hunder : ∀ child, ∀ issue ∈ issuesOf child, path ++ [step child] <+: issue.path)
    (hfails : ∀ child ∈ children, issuesOf child = [] ↔ fails child = false) :
    BlamesInOrder path (firstOrAll failFast ((children.filter fails).map step))
      (gatherUntil (stopsEarly failFast) issuesOf children) := by
  induction children with
  | nil => cases failFast <;> exact .nil
  | cons child rest ih =>
    obtain ⟨hchild, hrest⟩ := List.forall_mem_cons.mp hfails
    rw [gatherUntil]
    cases hfailed : fails child with
    | false =>
      rw [hchild.mpr hfailed, stopsEarly_nil, List.filter_cons_of_neg (by simp [hfailed])]
      exact ih hrest
    | true =>
      have hne : issuesOf child ≠ [] := by
        rw [Ne, hchild, hfailed]
        decide
      rw [List.filter_cons_of_pos hfailed]
      cases failFast with
      | true =>
        have hstop : stopsEarly true (issuesOf child) = true := by simpa [stopsEarly] using hne
        rw [if_pos hstop]
        exact .singleton hne (hunder child)
      | false => exact .cons hne (hunder child) (ih hrest)

end

namespace Schema

/-! ## Children that fail -/

/-- The places of the parts that their schemas refuse. -/
def failingPlaces (parts : List (Schema × Value)) : List Segment :=
  (parts.zipIdx.filter fun part => !part.1.1.accepts part.1.2).map fun part => .index part.2

def fieldFails (required : Bool) (members : List (String × Value)) (f : String × Schema) : Bool :=
  match members.lookup f.1 with
  | some w => !f.2.accepts w
  | none => required

def failingFields (required : Bool) (members : List (String × Value)) (fields : List (String × Schema)) :
    List Segment :=
  (fields.filter (fieldFails required members)).map fun f => .key f.1

variable {path : Path} {failFast : Bool} {v : Value} {label : Option String}

theorem index_mem_failingPlaces_iff {parts : List (Schema × Value)} {i : Nat} :
    Segment.index i ∈ failingPlaces parts ↔
      ∃ part, parts[i]? = some part ∧ part.1.accepts part.2 = false := by
  simp only [failingPlaces, List.mem_map, List.mem_filter, Bool.not_eq_true', Prod.exists,
    List.mk_mem_zipIdx_iff_getElem?, Segment.index.injEq, Int.natCast_inj]
  constructor
  · rintro ⟨s, w, _, ⟨hpart, hfails⟩, rfl⟩
    exact ⟨s, w, hpart, hfails⟩
  · rintro ⟨s, w, hpart, hfails⟩
    exact ⟨s, w, i, ⟨hpart, hfails⟩, rfl⟩

theorem pairwise_failingPlaces (parts : List (Schema × Value)) :
    (failingPlaces parts).Pairwise fun x y =>
      ∃ i j : Nat, x = .index i ∧ y = .index j ∧ i ≤ j := by
  have hplaces : (parts.zipIdx.map (·.2)).Pairwise (· ≤ ·) := by
    rw [List.zipIdx_map_snd]
    exact List.pairwise_le_range'
  rw [failingPlaces, List.pairwise_map]
  refine ((List.pairwise_map.mp hplaces).filter _).imp ?_
  intro a b hle
  exact ⟨a.2, b.2, rfl, rfl, hle⟩

theorem failingPlaces_map (item : Schema) (elements : List Value) :
    failingPlaces (elements.map fun e => (item, e)) =
      (elements.zipIdx.filter fun e => !item.accepts e.1).map fun e => .index e.2 := by
  rw [failingPlaces, List.zipIdx_map, List.filter_map, List.map_map]
  rfl

/-! ## Containers -/

theorem blamesInOrder_array {nonEmpty : Bool} {item : Schema} {elements : List Value}
    (hv : v.elements? = some elements) (hne : nonEmpty = true → elements ≠ []) :
    BlamesInOrder path (firstOrAll failFast (failingPlaces (elements.map fun e => (item, e))))
      (check (.array nonEmpty item label) v path failFast) := by
  rw [check_array path failFast hv hne, failingPlaces_map]
  apply blamesInOrder_gatherUntil failFast
  · intro e issue h
    exact prefix_of_mem_check h
  · intro e _
    rw [check_eq_nil_iff_accepts, Bool.not_eq_false']

theorem blamesInOrder_tuple {items : List Schema} {elements : List Value}
    (hv : v.elements? = some elements) (hlen : elements.length = items.length) :
    BlamesInOrder path ((failingPlaces (items.zip elements)).take 1)
      (check (.tuple items label) v path failFast) := by
  rw [check_tuple path failFast hv hlen]
  -- The loop stops early in either mode.
  apply blamesInOrder_gatherUntil true
  · intro part issue h
    exact prefix_of_mem_check h
  · intro part _
    unfold elementIssues
    rw [check_eq_nil_iff_accepts, Bool.not_eq_false']

theorem blamesInOrder_object {required : Bool} {fields : List (String × Schema)}
    {members : List (String × Value)} (hv : v.members? = some members) :
    BlamesInOrder path (firstOrAll failFast (failingFields required members fields))
      (check (.object required fields label) v path failFast) := by
  rw [check_object path failFast hv]
  apply blamesInOrder_gatherUntil failFast
  · intro f issue h
    exact prefix_of_mem_fieldIssues h
  · intro f _
    rw [fieldIssues_eq_nil_iff]
    unfold fieldFails
    cases members.lookup f.1 with
    | some w => simp [check_eq_nil_iff_accepts]
    | none => simp

/-- The children that fail are blamed, in order, and no others. -/
theorem containers_blame_failing_children (path : Path) :
    (∀ nonEmpty item label v elements, v.elements? = some elements →
      (nonEmpty = true → elements ≠ []) →
      let report := check (.array nonEmpty item label) v path
      let failing := failingPlaces (elements.map fun e => (item, e))
      (∀ (i : Nat) e, elements[i]? = some e →
        ((∃ issue ∈ report false, path ++ [.index i] <+: issue.path) ↔ item.accepts e = false)) ∧
      ((report false).Pairwise fun a b => ∃ i j : Nat,
        i ≤ j ∧ path ++ [.index i] <+: a.path ∧ path ++ [.index j] <+: b.path) ∧
      BlamesInOrder path failing (report false) ∧
      BlamesInOrder path (failing.take 1) (report true)) ∧
    (∀ required fields label v members, v.members? = some members →
      let report := check (.object required fields label) v path
      let failing := failingFields required members fields
      BlamesInOrder path failing (report false) ∧
      BlamesInOrder path (failing.take 1) (report true)) ∧
    ∀ items label v elements failFast, v.elements? = some elements →
      elements.length = items.length →
      BlamesInOrder path ((failingPlaces (items.zip elements)).take 1)
        (check (.tuple items label) v path failFast) := by
  refine ⟨?_, ?_, ?_⟩
  · intro nonEmpty item label v elements hv hne report failing
    have hreport (failFast : Bool) :
        BlamesInOrder path (firstOrAll failFast failing) (report failFast) := blamesInOrder_array hv hne
    have hfull : BlamesInOrder path failing (report false) := hreport false
    refine ⟨?_, ?_, hfull, hreport true⟩
    · intro i e he
      rw [hfull.mem_iff, index_mem_failingPlaces_iff, List.getElem?_map, he]
      simp
    · have hrefl : ∀ step ∈ failing, ∃ i j : Nat, step = .index i ∧ step = .index j ∧ i ≤ j := by
        intro step hstep
        obtain ⟨e, _, rfl⟩ := List.mem_map.mp hstep
        exact ⟨e.2, e.2, rfl, rfl, le_rfl⟩
      refine (hfull.pairwise hrefl (pairwise_failingPlaces _)).imp ?_
      rintro a b ⟨_, _, ⟨i, j, rfl, rfl, hle⟩, ha, hb⟩
      exact ⟨i, j, hle, ha, hb⟩
  · intro required fields label v members hv report failing
    have hreport (failFast : Bool) :
        BlamesInOrder path (firstOrAll failFast failing) (report failFast) := blamesInOrder_object hv
    exact ⟨hreport false, hreport true⟩
  · intro items label v elements failFast hv hlen
    exact blamesInOrder_tuple hv hlen

theorem containers_blame_failing_children_twice :
    let elements := [.int 1, .null, .text "", .int 2]
    let array := Schema.array true Grammar.number none
    let fields := [("a", Grammar.any), ("b", Grammar.array Grammar.text), ("c", Grammar.text),
      ("d", Grammar.any)]
    let members := [("d", .null), ("b", .list [.null, .text "", .null]), ("a", .null)]
    let object := Schema.object true fields none
    let items := [Grammar.number, Grammar.number, Grammar.null, Grammar.any]
    let tuple := Schema.tuple items none
    BlamesInOrder [] [.index 1, .index 2] (array.check (.list elements) [] false) ∧
      BlamesInOrder [] [.index 1] (array.check (.list elements) [] true) ∧
      BlamesInOrder [] [.key "b", .key "c"] (object.check (.object members) [] false) ∧
      BlamesInOrder [] [.key "b"] (object.check (.object members) [] true) ∧
      BlamesInOrder [] [.index 1] (tuple.check (.tuple elements) [] false) := by
  intro elements array fields members object items tuple
  obtain ⟨harray, hobject, htuple⟩ := containers_blame_failing_children []
  obtain ⟨-, -, hfull, hfirst⟩ :=
    harray true Grammar.number none (.list elements) elements rfl (fun _ => List.cons_ne_nil _ _)
  obtain ⟨hfields, hfield⟩ := hobject true fields none (.object members) members rfl
  exact ⟨hfull, hfirst, hfields, hfield, htuple items none (.tuple elements) elements false rfl rfl⟩

end Schema

end GeoSchema
