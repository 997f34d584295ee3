import GeoSchema.Proofs.Recognition
import GeoSchema.Proofs.Relocation
import GeoSchema.Schema.Properties

/-!
# Schemas of objects

Objects, and intersections of nothing but such schemas, describe objects. They look at an object under
the keys that they declare and nowhere else. Any other value they refuse as a whole, with one issue.
-/

namespace GeoSchema

namespace Schema

/-- An object, or an intersection of such, to any depth. -/
inductive DescribesObjects : Schema → Prop where
  | object (required : Bool) (fields : List (String × Schema)) (label : Option String) :
    DescribesObjects (.object required fields label)
  | intersection {members : List Schema} (label : Option String) (hne : members ≠ [])
    (h : ∀ m ∈ members, DescribesObjects m) : DescribesObjects (.intersection members label)

theorem DescribesObjects.pair {a b : Schema} (ha : a.DescribesObjects) (hb : b.DescribesObjects)
    (label : Option String) : (Schema.intersection [a, b] label).DescribesObjects := by
  apply DescribesObjects.intersection label (List.cons_ne_nil _ _)
  simp only [List.forall_mem_cons, List.not_mem_nil, false_implies, implies_true, and_true]
  exact ⟨ha, hb⟩

/-! ## Declared fields -/

mutual

/-- The fields of all its objects, before any merging. -/
def declared : Schema → List (Field Schema)
  | .object required fields _ => fields.map fun f => ⟨f.1, required, f.2⟩
  | .intersection members _ => declaredBy members
  | _ => []

def declaredBy : List Schema → List (Field Schema)
  | [] => []
  | m :: rest => declared m ++ declaredBy rest

end

def declaredKeys (s : Schema) : List String := s.declared.map (·.key)

variable {s : Schema} {members : List Schema} {label : Option String}

theorem declared_intersection (members : List Schema) (label : Option String) :
    declared (.intersection members label) = members.flatMap declared := by
  rw [declared]
  induction members with
  | nil => rfl
  | cons m rest ih => rw [declaredBy, List.flatMap_cons, ih]

theorem declaredKeys_object (required : Bool) (fields : List (String × Schema))
    (label : Option String) :
    declaredKeys (.object required fields label) = fields.map (·.1) := by
  rw [declaredKeys, declared, List.map_map]
  rfl

theorem declaredKeys_intersection (members : List Schema) (label : Option String) :
    declaredKeys (.intersection members label) = members.flatMap declaredKeys := by
  rw [declaredKeys, declared_intersection, List.map_flatMap]
  rfl

/-! ## What is no object -/

variable {v : Value} {path : Path} {failFast : Bool}

/-- The first member refuses the value, and then no other member is asked. -/
theorem check_of_members?_none (hs : s.DescribesObjects) (hv : v.members? = none) :
    ∃ expected, s.check v path failFast = [.refusal path expected .shapeMismatch v] := by
  induction hs with
  | object required fields label =>
    refine ⟨name (.object required fields label), ?_⟩
    rw [check, hv]
  | intersection label hne _ ih =>
    obtain ⟨first, rest, rfl⟩ := List.exists_cons_of_ne_nil hne
    obtain ⟨expected, hfirst⟩ := ih first List.mem_cons_self
    refine ⟨expected, ?_⟩
    have hstop : stopsMembers path failFast [.refusal path expected .shapeMismatch v] = true := by
      simp [stopsMembers, wrongShapeAt, Issue.refusal]
    rw [check_intersection, gatherUntil, hfirst, if_pos hstop]

theorem isObject_of_accepts (hs : s.DescribesObjects) (h : s.accepts v) : v.IsObject := by
  cases hv : v.members? with
  | some entries => exact ⟨entries, Value.members?_eq_some_iff.mp hv⟩
  | none =>
    have hrefused : ∃ expected, s.check v [] true = [.refusal [] expected .shapeMismatch v] :=
      check_of_members?_none hs hv
    obtain ⟨expected, hcheck⟩ := hrefused
    rw [accepts_iff_check_eq_nil, hcheck] at h
    exact absurd h (List.cons_ne_nil _ _)

/-! ## Objects -/

variable {entries : List (String × Value)}

theorem accepts_object_iff (hs : s.DescribesObjects) :
    s.accepts (.object entries) ↔ ∀ f ∈ s.declared,
      (f.required = true → (entries.lookup f.key).isSome = true) ∧
        ∀ w ∈ entries.lookup f.key, f.content.accepts w := by
  induction hs with
  | object required fields label =>
    rw [accepts_object, Value.members?_object, declared, List.forall_mem_map]
    simp
  | intersection label _ _ ih =>
    rw [accepts_intersection, declared_intersection, List.forall_mem_flatMap]
    exact forall₂_congr ih

theorem exists_key_of_mem_check (hs : s.DescribesObjects) {issue : Issue}
    (h : issue ∈ s.check (.object entries) path failFast) :
    ∃ key ∈ s.declaredKeys, path ++ [.key key] <+: issue.path := by
  induction hs with
  | object required fields label =>
    rw [check_object path failFast (Value.members?_object entries)] at h
    obtain ⟨f, hf, h⟩ := exists_of_mem_gatherUntil h
    rw [declaredKeys_object]
    exact ⟨f.1, List.mem_map_of_mem hf, prefix_of_mem_fieldIssues h⟩
  | intersection label _ _ ih =>
    rw [check_intersection] at h
    obtain ⟨m, hm, h⟩ := exists_of_mem_gatherUntil h
    obtain ⟨key, hkey, hprefix⟩ := ih m hm h
    rw [declaredKeys_intersection]
    exact ⟨key, List.mem_flatMap.mpr ⟨m, hm, hkey⟩, hprefix⟩

end Schema

end GeoSchema
