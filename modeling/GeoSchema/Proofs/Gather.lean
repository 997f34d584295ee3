import GeoSchema.Proofs.Shape
import GeoSchema.Proofs.StrictEquality
import GeoSchema.Schema.Check

/-!
# How a check gathers issues

`gatherUntil` goes through parts in order until a stop rule tells it to leave the rest. Every loop
of `Schema.check` but the one over alternatives is a case of it, with a stop rule of its own.
-/

namespace GeoSchema

/-! ## One loop -/

/-- The issues of the parts, up to the first part that meets the stop rule. -/
def gatherUntil {α : Type} (stop : List Issue → Bool) (issuesOf : α → List Issue) :
    List α → List Issue
  | [] => []
  | part :: rest =>
    if stop (issuesOf part) then issuesOf part
    else issuesOf part ++ gatherUntil stop issuesOf rest

/-- The stop rule of a fail-fast loop. -/
def stopsEarly (failFast : Bool) (found : List Issue) : Bool := failFast && !found.isEmpty

section

variable {α : Type} {stop : List Issue → Bool} {issuesOf : α → List Issue}

@[simp] theorem stopsEarly_nil (failFast : Bool) : stopsEarly failFast [] = false := by
  cases failFast <;> rfl

theorem gather_eq_gatherUntil (failFast : Bool) (issuesOf : α → List Issue) (parts : List α) :
    gather failFast issuesOf parts = gatherUntil (stopsEarly failFast) issuesOf parts := by
  induction parts with
  | nil => rfl
  | cons part rest ih => rw [gather, gatherUntil, ih, stopsEarly]

theorem gatherUntil_eq_nil_iff (hstop : stop [] = false) (parts : List α) :
    gatherUntil stop issuesOf parts = [] ↔ ∀ part ∈ parts, issuesOf part = [] := by
  induction parts with
  | nil => simp [gatherUntil]
  | cons part rest ih =>
    rw [gatherUntil, List.forall_mem_cons]
    split
    · -- The part made the loop stop, so it has issues, and the loop hands them out.
      rename_i h
      have hne : issuesOf part ≠ [] := by
        intro hnil
        rw [hnil, hstop] at h
        exact absurd h (by decide)
      simp [hne]
    · rw [List.append_eq_nil_iff, ih]

theorem exists_of_mem_gatherUntil {parts : List α} {issue : Issue}
    (h : issue ∈ gatherUntil stop issuesOf parts) : ∃ part ∈ parts, issue ∈ issuesOf part := by
  induction parts with
  | nil => exact absurd h List.not_mem_nil
  | cons part rest ih =>
    rw [gatherUntil] at h
    have hsplit : issue ∈ issuesOf part ∨ issue ∈ gatherUntil stop issuesOf rest := by
      split at h
      · exact Or.inl h
      · exact List.mem_append.mp h
    rcases hsplit with hpart | hrest
    · exact ⟨part, List.mem_cons_self, hpart⟩
    · obtain ⟨p, hp, hissue⟩ := ih hrest
      exact ⟨p, List.mem_cons_of_mem _ hp, hissue⟩

theorem gatherUntil_congr {issuesOf' : α → List Issue} {parts : List α}
    (h : ∀ part ∈ parts, issuesOf part = issuesOf' part) :
    gatherUntil stop issuesOf parts = gatherUntil stop issuesOf' parts := by
  induction parts with
  | nil => rfl
  | cons part rest ih =>
    obtain ⟨hpart, hrest⟩ := List.forall_mem_cons.mp h
    rw [gatherUntil, gatherUntil, hpart, ih hrest]

end

namespace Schema

/-! ## Induction on schemas -/

@[elab_as_elim, induction_eliminator]
theorem inductionOnParts {motive : Schema → Prop}
    (primitive : ∀ p, motive (.primitive p))
    (literal : ∀ c label, motive (.literal c label))
    (tuple : ∀ items label, (∀ item ∈ items, motive item) → motive (.tuple items label))
    (array : ∀ nonEmpty item label, motive item → motive (.array nonEmpty item label))
    (dictionary : ∀ key value label, motive key → motive value →
      motive (.dictionary key value label))
    (object : ∀ required fields label, (∀ f ∈ fields, motive f.2) →
      motive (.object required fields label))
    (union : ∀ alternatives label, (∀ a ∈ alternatives, motive a) →
      motive (.union alternatives label))
    (intersection : ∀ members label, (∀ m ∈ members, motive m) →
      motive (.intersection members label))
    (s : Schema) : motive s := by
  refine @Schema.rec motive (fun items => ∀ item ∈ items, motive item)
    (fun fields => ∀ f ∈ fields, motive f.2) (fun f => motive f.2)
    primitive literal tuple array dictionary object union intersection ?_ ?_ ?_ ?_ ?_ s
  · simp
  · intro item rest hitem hrest
    exact List.forall_mem_cons.mpr ⟨hitem, hrest⟩
  · simp
  · intro f rest hf hrest
    exact List.forall_mem_cons.mpr ⟨hf, hrest⟩
  · intro key s hs
    exact hs

/-! ## The loops of a check -/

def elementIssues (path : Path) (failFast : Bool) (part : (Schema × Value) × Nat) : List Issue :=
  check part.1.1 part.1.2 (path ++ [.index part.2]) failFast

def fieldIssues (required : Bool) (members : List (String × Value)) (path : Path)
    (failFast : Bool) (f : String × Schema) : List Issue :=
  match members.lookup f.1 with
  | some v => check f.2 v (path ++ [.key f.1]) failFast
  | none => if required then [.refusal (path ++ [.key f.1]) f.2.name .missingField .null] else []

def entryIssues (key value : Schema) (path : Path) (failFast : Bool) (e : Value × Value) :
    List Issue :=
  check key e.1 (path ++ [.ofKey e.1]) failFast ++ check value e.2 (path ++ [.ofKey e.1]) failFast

def stopsMembers (path : Path) (failFast : Bool) (found : List Issue) : Bool :=
  stopsEarly failFast found || wrongShapeAt path found

@[simp] theorem stopsMembers_nil (path : Path) (failFast : Bool) :
    stopsMembers path failFast [] = false := by
  rw [stopsMembers, stopsEarly_nil]
  rfl

/-- The loop over the elements stops at the first refused one in either mode. -/
theorem checkItems_eq (items : List Schema) (elements : List Value) (i : Nat) (path : Path)
    (failFast : Bool) :
    checkItems items elements i path failFast =
      gatherUntil (stopsEarly true) (elementIssues path failFast)
        ((items.zip elements).zipIdx i) := by
  induction items generalizing elements i with
  | nil => simp [checkItems, gatherUntil]
  | cons item items ih =>
    cases elements with
    | nil => simp [checkItems, gatherUntil]
    | cons element elements =>
      rw [checkItems, List.zip_cons_cons, List.zipIdx_cons, gatherUntil, ih, elementIssues,
        stopsEarly]
      cases check item element (path ++ [.index i]) failFast <;> simp

theorem checkFields_eq (required : Bool) (fields : List (String × Schema))
    (members : List (String × Value)) (path : Path) (failFast : Bool) :
    checkFields required fields members path failFast =
      gatherUntil (stopsEarly failFast) (fieldIssues required members path failFast) fields := by
  induction fields with
  | nil => rw [checkFields, gatherUntil]
  | cons f fields ih =>
    rw [checkFields, ih]
    rfl

theorem checkMembers_eq (members : List Schema) (v : Value) (path : Path) (failFast : Bool) :
    checkMembers members v path failFast =
      gatherUntil (stopsMembers path failFast) (fun m => check m v path failFast) members := by
  induction members with
  | nil => rw [checkMembers, gatherUntil]
  | cons member rest ih => rw [checkMembers, gatherUntil, ih, stopsMembers, stopsEarly]

theorem checkAlternatives_eq_none_iff (alternatives : List Schema) (v : Value) (path : Path)
    (failFast : Bool) :
    checkAlternatives alternatives v path failFast = none ↔
      ∃ a ∈ alternatives, check a v path failFast = [] := by
  induction alternatives with
  | nil => simp [checkAlternatives]
  | cons a rest ih =>
    simp only [checkAlternatives, List.mem_cons, exists_eq_or_imp, ← ih]
    cases check a v path failFast <;> simp

theorem eq_flatMap_of_checkAlternatives {alternatives : List Schema} {v : Value} {path : Path}
    {failFast : Bool} {causes : List Issue}
    (h : checkAlternatives alternatives v path failFast = some causes) :
    causes = alternatives.flatMap fun a => check a v path failFast := by
  induction alternatives generalizing causes with
  | nil =>
    rw [checkAlternatives, Option.some.injEq] at h
    exact h.symm
  | cons a rest ih =>
    rw [checkAlternatives] at h
    split at h
    · exact absurd h (by simp)
    · obtain ⟨later, hlater, rfl⟩ := Option.map_eq_some_iff.mp h
      rw [List.flatMap_cons, ih hlater]

/-! ## Values refused on sight -/

/-- The schema refuses the value on sight, with this kind of issue. -/
inductive Refuses : Schema → Value → IssueKind → Prop where
  | primitive {p v} (h : p.accepts v = false) : Refuses (.primitive p) v .shapeMismatch
  | literal {c label v} (h : ¬ c.StrictlyEquals v) : Refuses (.literal c label) v .tagMismatch
  | tuple {items label v} (h : v.elements? = none) : Refuses (.tuple items label) v .shapeMismatch
  | tupleLength {items label v elements} (hv : v.elements? = some elements)
    (h : elements.length ≠ items.length) : Refuses (.tuple items label) v .shapeMismatch
  | array {nonEmpty item label v} (h : v.elements? = none) :
    Refuses (.array nonEmpty item label) v .shapeMismatch
  | emptyArray {item label v} (h : v.elements? = some []) :
    Refuses (.array true item label) v .emptinessViolation
  | dictionary {key value label v} (h : v.entries? = none) :
    Refuses (.dictionary key value label) v .shapeMismatch
  | object {required fields label v} (h : v.entries? = none) :
    Refuses (.object required fields label) v .shapeMismatch
  | objectKey {required fields label v entries} (hv : v.entries? = some entries)
    (h : ∃ e ∈ entries, ∀ name, e.1 ≠ .text name) :
    Refuses (.object required fields label) v .shapeMismatch

theorem accepts_or_refuses (p : Primitive) (v : Value) :
    p.accepts v = true ∨ ∃ kind, Refuses (.primitive p) v kind := by
  cases h : p.accepts v with
  | true => exact Or.inl rfl
  | false => exact Or.inr ⟨_, .primitive h⟩

theorem strictlyEquals_or_refuses (c : Constant) (label : Option String) (v : Value) :
    c.StrictlyEquals v ∨ ∃ kind, Refuses (.literal c label) v kind := by
  by_cases h : c.StrictlyEquals v
  · exact Or.inl h
  · exact Or.inr ⟨_, .literal h⟩

theorem elements_or_refuses_tuple (items : List Schema) (label : Option String) (v : Value) :
    (∃ elements, v.elements? = some elements ∧ elements.length = items.length) ∨
      ∃ kind, Refuses (.tuple items label) v kind := by
  cases hv : v.elements? with
  | none => exact Or.inr ⟨_, .tuple hv⟩
  | some elements =>
    by_cases h : elements.length = items.length
    · exact Or.inl ⟨elements, rfl, h⟩
    · exact Or.inr ⟨_, .tupleLength hv h⟩

theorem elements_or_refuses_array (nonEmpty : Bool) (item : Schema) (label : Option String)
    (v : Value) :
    (∃ elements, v.elements? = some elements ∧ (nonEmpty = true → elements ≠ [])) ∨
      ∃ kind, Refuses (.array nonEmpty item label) v kind := by
  cases hv : v.elements? with
  | none => exact Or.inr ⟨_, .array hv⟩
  | some elements =>
    by_cases h : nonEmpty = true ∧ elements = []
    · obtain ⟨rfl, rfl⟩ := h
      exact Or.inr ⟨_, .emptyArray hv⟩
    · exact Or.inl ⟨elements, rfl, fun hne hnil => h ⟨hne, hnil⟩⟩

theorem entries_or_refuses (key value : Schema) (label : Option String) (v : Value) :
    (∃ entries, v.entries? = some entries) ∨ ∃ kind, Refuses (.dictionary key value label) v kind := by
  cases hv : v.entries? with
  | none => exact Or.inr ⟨_, .dictionary hv⟩
  | some entries => exact Or.inl ⟨entries, rfl⟩

theorem members_or_refuses (required : Bool) (fields : List (String × Schema))
    (label : Option String) (v : Value) :
    (∃ members, v.members? = some members) ∨
      ∃ kind, Refuses (.object required fields label) v kind := by
  cases hv : v.members? with
  | none =>
    rcases Value.members?_eq_none_iff.mp hv with h | ⟨entries, hentries, h⟩
    · exact Or.inr ⟨_, .object h⟩
    · exact Or.inr ⟨_, .objectKey hentries h⟩
  | some members => exact Or.inl ⟨members, rfl⟩

/-! ## One equation for each kind of schema -/

section

variable (path : Path) (failFast : Bool)

theorem check_of_refuses {s : Schema} {v : Value} {kind : IssueKind} (h : s.Refuses v kind) :
    s.check v path failFast = [.refusal path s.name kind v] := by
  cases h with
  | primitive h => rw [check, h, name]; rfl
  | literal h =>
    rw [← Constant.equals_iff, Bool.not_eq_true] at h
    rw [check, h, name]
    rfl
  | tuple h => rw [check, h]
  | tupleLength hv h =>
    rw [check, hv]
    exact if_neg h
  | array h => rw [check, h]
  | emptyArray h => rw [check, h]; rfl
  | dictionary h => rw [check, h]
  | object h => rw [check, Value.members?_eq_none_iff.mpr (Or.inl h)]
  | objectKey hv h => rw [check, Value.members?_eq_none_iff.mpr (Or.inr ⟨_, hv, h⟩)]

variable {v : Value} {label : Option String}

theorem check_primitive {p : Primitive} (h : p.accepts v = true) :
    check (.primitive p) v path failFast = [] := by
  rw [check, if_pos h]

theorem check_literal {c : Constant} (h : c.StrictlyEquals v) :
    check (.literal c label) v path failFast = [] := by
  rw [check, if_pos ((Constant.equals_iff c v).mpr h)]

theorem check_tuple {items : List Schema} {elements : List Value}
    (hv : v.elements? = some elements) (hlen : elements.length = items.length) :
    check (.tuple items label) v path failFast =
      gatherUntil (stopsEarly true) (elementIssues path failFast) (items.zip elements).zipIdx := by
  rw [check, hv, ← checkItems_eq]
  exact if_pos hlen

theorem check_array {nonEmpty : Bool} {item : Schema} {elements : List Value}
    (hv : v.elements? = some elements) (hne : nonEmpty = true → elements ≠ []) :
    check (.array nonEmpty item label) v path failFast =
      gatherUntil (stopsEarly failFast)
        (fun e => check item e.1 (path ++ [.index e.2]) failFast) elements.zipIdx := by
  have hfull : (nonEmpty && elements.isEmpty) = false := by
    cases nonEmpty with
    | false => rfl
    | true => simpa using hne rfl
  rw [check, hv, ← gather_eq_gatherUntil]
  simp only [hfull, Bool.false_eq_true, if_false]

theorem check_dictionary {key value : Schema} {entries : List (Value × Value)}
    (hv : v.entries? = some entries) :
    check (.dictionary key value label) v path failFast =
      gatherUntil (stopsEarly failFast) (entryIssues key value path failFast) entries := by
  rw [check, hv, ← gather_eq_gatherUntil]
  rfl

theorem check_object {required : Bool} {fields : List (String × Schema)}
    {members : List (String × Value)} (hv : v.members? = some members) :
    check (.object required fields label) v path failFast =
      gatherUntil (stopsEarly failFast) (fieldIssues required members path failFast) fields := by
  rw [check, hv, ← checkFields_eq]

theorem clean_or_refused (alternatives : List Schema) (v : Value) (path : Path) (failFast : Bool) :
    (∃ a ∈ alternatives, check a v path failFast = []) ∨
      ∀ a ∈ alternatives, check a v path failFast ≠ [] := by
  by_cases h : ∃ a ∈ alternatives, check a v path failFast = []
  · exact Or.inl h
  · exact Or.inr fun a ha hnil => h ⟨a, ha, hnil⟩

theorem check_union_of_clean {alternatives : List Schema}
    (h : ∃ a ∈ alternatives, check a v path failFast = []) :
    check (.union alternatives label) v path failFast = [] := by
  rw [check, (checkAlternatives_eq_none_iff alternatives v path failFast).mpr h]

theorem check_union_of_refused {alternatives : List Schema}
    (h : ∀ a ∈ alternatives, check a v path failFast ≠ []) :
    check (.union alternatives label) v path failFast =
      [{ path, expected := name (.union alternatives label), kind := .allAlternativesFailed,
         value := v, causes := alternatives.flatMap fun a => check a v path failFast }] := by
  rw [check]
  cases hcauses : checkAlternatives alternatives v path failFast with
  | none =>
    obtain ⟨a, ha, hclean⟩ := (checkAlternatives_eq_none_iff alternatives v path failFast).mp hcauses
    exact absurd hclean (h a ha)
  | some causes => rw [eq_flatMap_of_checkAlternatives hcauses]

theorem check_intersection (members : List Schema) :
    check (.intersection members label) v path failFast =
      gatherUntil (stopsMembers path failFast) (fun m => check m v path failFast) members := by
  rw [check, checkMembers_eq]

end

end Schema

end GeoSchema
