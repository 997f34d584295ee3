import GeoSchema.Proofs.Intersections
import GeoSchema.Proofs.ObjectReports

/-!
# Intersections of objects

An intersection skips the members after one that finds the wrong shape at the value itself. Where all
members describe objects, this spares repetition and loses nothing: of an object no member is skipped,
and of anything else each would say that it has the wrong shape.
-/

namespace GeoSchema

namespace Schema

variable {s part : Schema}

/-! ## Members of members -/

theorem isObjectSchema_of_mem_opened (hs : s.DescribesObjects) (hpart : part ∈ s.opened .intersection) :
    ∃ required fields label, part = .object required fields label := by
  induction hs with
  | object required fields label => exact ⟨required, fields, label, List.mem_singleton.mp hpart⟩
  | @intersection members label _ _ ih =>
    rw [← Connective.join, opened_join, List.mem_flatMap] at hpart
    obtain ⟨m, hm, hpart⟩ := hpart
    exact ih m hm hpart

theorem describesObjects_of_mem_opened (hs : s.DescribesObjects) (hpart : part ∈ s.opened .intersection) :
    part.DescribesObjects := by
  obtain ⟨required, fields, label, rfl⟩ := isObjectSchema_of_mem_opened hs hpart
  exact .object required fields label

theorem describesObjects_of_mem {members : List Schema} {label : Option String} {m : Schema}
    (hs : (Schema.intersection members label).DescribesObjects) (hm : m ∈ members) :
    m.DescribesObjects := by
  cases hs with
  | intersection _ _ h => exact h m hm

/-! ## What is reported -/

/-- Nothing below an object passes for the wrong shape of the object. -/
theorem check_full_eq_flatMap_opened (hs : s.DescribesObjects) (entries : List (String × Value))
    (path : Path) :
    s.check (.object entries) path false =
      (s.opened .intersection).flatMap fun part => check part (.object entries) path false := by
  rw [check_eq_gatherUntil_opened, gatherUntil_eq_flatMap]
  intro part hpart
  unfold stopsMembers
  rw [wrongShapeAt_check_object (describesObjects_of_mem_opened hs hpart)]
  rfl

/-- A full report of an object loses nothing that the members of an intersection say. -/
theorem object_intersection_loses_nothing {members : List Schema} {label : Option String}
    (hs : (Schema.intersection members label).DescribesObjects) (v : Value) (path : Path) :
    let parts := openedAll .intersection members
    let report := check (.intersection members label) v path false
    (∀ part ∈ parts, ∃ required fields label, part = .object required fields label) ∧
    (v.IsObject → report = parts.flatMap fun part => check part v path false) ∧
    (¬ v.IsObject →
      (∃ expected, report = [.refusal path expected .shapeMismatch v]) ∧
      ∀ m, m ∈ members ∨ m ∈ parts →
        ∃ expected, check m v path false = [.refusal path expected .shapeMismatch v]) := by
  have hparts : openedAll .intersection members =
      opened .intersection (.intersection members label) := by
    rw [opened]
  intro parts report
  refine ⟨?_, ?_, ?_⟩
  · intro part hpart
    exact isObjectSchema_of_mem_opened hs (hparts ▸ hpart)
  · rintro ⟨entries, rfl⟩
    have hreport := check_full_eq_flatMap_opened hs entries path
    rw [← hparts] at hreport
    exact hreport
  · intro hv
    have hnone : v.members? = none := by
      rw [Option.eq_none_iff_forall_ne_some]
      intro entries hentries
      exact hv ⟨entries, Value.members?_eq_some_iff.mp hentries⟩
    refine ⟨check_of_members?_none hs hnone, ?_⟩
    rintro m (hm | hm)
    · exact check_of_members?_none (describesObjects_of_mem hs hm) hnone
    · exact check_of_members?_none (describesObjects_of_mem_opened hs (hparts ▸ hm)) hnone

theorem object_intersection_loses_nothing_nested :
    let inner := Schema.object false [("b", Grammar.null)] none
    let s := Schema.intersection
      [.object true [("a", Grammar.array Grammar.number)] none, .intersection [inner] none] none
    s.DescribesObjects ∧
      s.check (.object [("a", .int 3), ("b", .int 0)]) [.index 7] false =
        [.refusal [.index 7, .key "a"] "Array<number>" .shapeMismatch (.int 3),
          .refusal [.index 7, .key "b"] "null" .shapeMismatch (.int 0)] ∧
      (∃ expected, s.check (.list []) [.index 7] false =
        [.refusal [.index 7] expected .shapeMismatch (.list [])]) ∧
      ∃ expected, inner.check (.list []) [.index 7] false =
        [.refusal [.index 7] expected .shapeMismatch (.list [])] := by
  intro inner s
  have hs : s.DescribesObjects :=
    .pair (.object _ _ _) (.intersection _ (List.cons_ne_nil _ _)
      (List.forall_mem_singleton.mpr (.object _ _ _))) none
  obtain ⟨-, hobject, -⟩ :=
    object_intersection_loses_nothing hs (.object [("a", .int 3), ("b", .int 0)]) [.index 7]
  obtain ⟨-, -, hother⟩ := object_intersection_loses_nothing hs (.list []) [.index 7]
  have hlist : ¬ (Value.list []).IsObject := by
    rintro ⟨entries, h⟩
    cases h
  have hinner : inner ∈ openedAll .intersection
      [.object true [("a", Grammar.array Grammar.number)] none, .intersection [inner] none] :=
    List.mem_cons_of_mem _ List.mem_cons_self
  obtain ⟨honce, hall⟩ := hother hlist
  refine ⟨hs, ?_, honce, hall inner (Or.inr hinner)⟩
  have hreport : s.check (.object [("a", .int 3), ("b", .int 0)]) [.index 7] false = _ :=
    hobject ⟨_, rfl⟩
  rw [hreport]
  rfl

end Schema

end GeoSchema
