import GeoSchema.Proofs.ObjectSchemas
import GeoSchema.Proofs.WellBuilt

/-!
# No place is blamed twice

A dictionary may blame an entry for its key and for its value, and two members of an intersection may
blame one field. Outside unions, which report a single issue, nothing else blames a place twice.
-/

namespace GeoSchema

/-! ## Places apart -/

/-- Neither is inside the other. -/
def Path.Apart (p q : Path) : Prop := p ≠ q ∧ ¬ p <+: q ∧ ¬ q <+: p

theorem not_prefix_of_segment_ne {path p q : Path} {x y : Segment} (hne : x ≠ y)
    (hp : path ++ [x] <+: p) (hq : path ++ [y] <+: q) : ¬ p <+: q := by
  intro h
  obtain ⟨rest, rfl⟩ := hq
  have hx := hp.trans h
  rw [List.append_assoc, List.prefix_append_right_inj, List.singleton_append,
    List.cons_prefix_cons] at hx
  exact hne hx.1

theorem Path.apart_of_segment_ne {path p q : Path} {x y : Segment} (hne : x ≠ y)
    (hp : path ++ [x] <+: p) (hq : path ++ [y] <+: q) : p.Apart q := by
  refine ⟨?_, not_prefix_of_segment_ne hne hp hq, not_prefix_of_segment_ne hne.symm hq hp⟩
  rintro rfl
  exact not_prefix_of_segment_ne hne hp hq (List.prefix_refl _)

def StandApart (issues : List Issue) : Prop := issues.Pairwise fun a b => a.path.Apart b.path

theorem standApart_singleton (issue : Issue) : StandApart [issue] := List.pairwise_singleton _ _

section

variable {α : Type} {stop : List Issue → Bool} {issuesOf : α → List Issue} {parts : List α}

theorem standApart_gatherUntil (hparts : ∀ part ∈ parts, StandApart (issuesOf part))
    (hcross : parts.Pairwise fun p q => ∀ a ∈ issuesOf p, ∀ b ∈ issuesOf q, a.path.Apart b.path) :
    StandApart (gatherUntil stop issuesOf parts) := by
  induction parts with
  | nil => exact List.Pairwise.nil
  | cons part rest ih =>
    obtain ⟨hpart, hrest⟩ := List.forall_mem_cons.mp hparts
    obtain ⟨hlater, hcross⟩ := List.pairwise_cons.mp hcross
    rw [gatherUntil]
    split
    · exact hpart
    · refine List.pairwise_append.mpr ⟨hpart, ih hrest hcross, ?_⟩
      intro a ha b hb
      obtain ⟨other, hother, hb⟩ := exists_of_mem_gatherUntil hb
      exact hlater other hother a ha b hb

theorem standApart_of_segments {path : Path} {segment : α → Segment}
    (hparts : ∀ part ∈ parts, StandApart (issuesOf part))
    (hbelow : ∀ part, ∀ issue ∈ issuesOf part, path ++ [segment part] <+: issue.path)
    (hsegments : parts.Pairwise fun p q => segment p ≠ segment q) :
    StandApart (gatherUntil stop issuesOf parts) := by
  apply standApart_gatherUntil hparts
  refine hsegments.imp ?_
  intro p q hne a ha b hb
  exact Path.apart_of_segment_ne hne (hbelow p a ha) (hbelow q b hb)

end

theorem pairwise_index_ne {α : Type} (elements : List α) :
    elements.zipIdx.Pairwise fun e e' => Segment.index e.2 ≠ Segment.index e'.2 := by
  have hindices : (elements.zipIdx.map (·.2)).Nodup := by
    rw [List.zipIdx_map_snd]
    exact List.nodup_range'
  refine (List.pairwise_map.mp hindices).imp ?_
  intro e e' hne
  simpa using hne

theorem pairwise_key_ne {α : Type} {fields : List (String × α)} (h : (fields.map (·.1)).Nodup) :
    fields.Pairwise fun f g => Segment.key f.1 ≠ Segment.key g.1 := by
  refine (List.pairwise_map.mp h).imp ?_
  intro f g hne
  simpa using hne

/-! ## Schemas whose parts report apart -/

namespace Schema

/-- No dictionaries outside unions, and no key declared by two members of an intersection. -/
inductive Separated : Schema → Prop where
  | primitive (p : Primitive) : Separated (.primitive p)
  | literal (c : Constant) (label : Option String) : Separated (.literal c label)
  | tuple {items : List Schema} (label : Option String) (h : ∀ item ∈ items, Separated item) :
    Separated (.tuple items label)
  | array (nonEmpty : Bool) {item : Schema} (label : Option String) (h : Separated item) :
    Separated (.array nonEmpty item label)
  | object (required : Bool) {fields : List (String × Schema)} (label : Option String)
    (h : ∀ f ∈ fields, Separated f.2) : Separated (.object required fields label)
  | union (alternatives : List Schema) (label : Option String) : Separated (.union alternatives label)
  | intersection {members : List Schema} (label : Option String)
    (hobjects : ∀ m ∈ members, m.DescribesObjects)
    (hkeys : members.Pairwise fun m n => m.declaredKeys.Disjoint n.declaredKeys)
    (h : ∀ m ∈ members, Separated m) : Separated (.intersection members label)

theorem standApart_of_refuses {s : Schema} {v : Value} {kind : IssueKind} (path : Path)
    (failFast : Bool) (h : s.Refuses v kind) : StandApart (s.check v path failFast) := by
  rw [check_of_refuses path failFast h]
  exact standApart_singleton _

theorem standApart_fieldIssues {required : Bool} {entries : List (String × Value)} {f : String × Schema}
    (h : ∀ v path failFast, StandApart (f.2.check v path failFast)) (path : Path) (failFast : Bool) :
    StandApart (fieldIssues required entries path failFast f) := by
  unfold fieldIssues
  split
  · exact h _ _ _
  · split
    · exact standApart_singleton _
    · exact List.Pairwise.nil

theorem standApart_check {s : Schema} (hbuilt : s.throughout wellBuilt = true) (hs : s.Separated)
    (v : Value) (path : Path) (failFast : Bool) : StandApart (s.check v path failFast) := by
  induction hs generalizing v path failFast with
  | primitive p =>
    rcases accepts_or_refuses p v with h | ⟨_, h⟩
    · rw [check_primitive _ failFast h]
      exact List.Pairwise.nil
    · exact standApart_of_refuses path failFast h
  | literal c label =>
    rcases strictlyEquals_or_refuses c label v with h | ⟨_, h⟩
    · rw [check_literal _ failFast h]
      exact List.Pairwise.nil
    · exact standApart_of_refuses path failFast h
  | @tuple items label _ ih =>
    rcases elements_or_refuses_tuple items label v with ⟨elements, hv, hlen⟩ | ⟨_, h⟩
    · rw [check_tuple _ failFast hv hlen]
      refine standApart_of_segments (fun part hpart => ?_) (fun part issue h => prefix_of_mem_check h)
        (pairwise_index_ne _)
      have hitem : part.1.1 ∈ items := (List.of_mem_zip (List.fst_mem_of_mem_zipIdx hpart)).1
      exact ih part.1.1 hitem (throughout_part hbuilt hitem) _ _ _
    · exact standApart_of_refuses path failFast h
  | @array nonEmpty item label _ ih =>
    have hitem := throughout_part hbuilt (List.mem_singleton_self item)
    rcases elements_or_refuses_array nonEmpty item label v with ⟨elements, hv, hne⟩ | ⟨_, h⟩
    · rw [check_array _ failFast hv hne]
      exact standApart_of_segments (fun e _ => ih hitem _ _ _) (fun e issue h => prefix_of_mem_check h)
        (pairwise_index_ne _)
    · exact standApart_of_refuses path failFast h
  | @object required fields label _ ih =>
    have hkeys : (fields.map (·.1)).Nodup := of_decide_eq_true (throughout_iff.mp hbuilt).1
    rcases members_or_refuses required fields label v with ⟨entries, hv⟩ | ⟨_, h⟩
    · rw [check_object _ failFast hv]
      refine standApart_of_segments (fun f hf => ?_) (fun f issue h => prefix_of_mem_fieldIssues h)
        (pairwise_key_ne hkeys)
      have hpart := throughout_part hbuilt (List.mem_map_of_mem hf)
      exact standApart_fieldIssues (ih f hf hpart) path failFast
    · exact standApart_of_refuses path failFast h
  | union alternatives label =>
    rcases clean_or_refused alternatives v path failFast with hclean | hrefused
    · rw [check_union_of_clean _ failFast hclean]
      exact List.Pairwise.nil
    · rw [check_union_of_refused _ failFast hrefused]
      exact standApart_singleton _
  | @intersection members label hobjects hkeys _ ih =>
    cases hv : v.members? with
    | none =>
      have hne : members ≠ [] := by simpa [wellBuilt] using (throughout_iff.mp hbuilt).1
      obtain ⟨expected, hcheck⟩ : ∃ expected, check (.intersection members label) v path failFast =
          [.refusal path expected .shapeMismatch v] :=
        check_of_members?_none (.intersection label hne hobjects) hv
      rw [hcheck]
      exact standApart_singleton _
    | some entries =>
      obtain rfl := Value.members?_eq_some_iff.mp hv
      rw [check_intersection]
      refine standApart_gatherUntil (fun m hm => ih m hm (throughout_part hbuilt hm) _ _ _) ?_
      refine hkeys.imp_of_mem ?_
      intro m n hm hn hdisjoint a ha b hb
      -- Each issue stands under a key that its member declares, and the two have none in common.
      obtain ⟨key, hkey, hprefix⟩ := exists_key_of_mem_check (hobjects m hm) ha
      obtain ⟨key', hkey', hprefix'⟩ := exists_key_of_mem_check (hobjects n hn) hb
      have hne : Segment.key key ≠ Segment.key key' := by
        intro hsame
        cases hsame
        exact hdisjoint hkey hkey'
      exact Path.apart_of_segment_ne hne hprefix hprefix'

-- An entry blamed for its key and for its value, and a field that two members blame.
example : (check (.dictionary Grammar.text Grammar.number none) (.dict [(.int 1, .null)]) [] false).map
    (·.path) = [[.index 1], [.index 1]] := rfl
example : (check (.intersection [.object true [("a", Grammar.number)] none,
    .object true [("a", Grammar.null)] none] none) (.object [("a", .text "")]) [] false).map
    (·.path) = [[.key "a"], [.key "a"]] := rfl

theorem Separated.pair {a b : Schema} (ha : a.DescribesObjects) (hb : b.DescribesObjects)
    (hkeys : a.declaredKeys.Disjoint b.declaredKeys) (hsa : a.Separated) (hsb : b.Separated)
    (label : Option String) : (Schema.intersection [a, b] label).Separated := by
  refine .intersection label (List.forall_mem_cons.mpr ⟨ha, List.forall_mem_singleton.mpr hb⟩) ?_
    (List.forall_mem_cons.mpr ⟨hsa, List.forall_mem_singleton.mpr hsb⟩)
  exact List.pairwise_pair.mpr hkeys

end Schema

/-! ## The grammar -/

namespace Grammar

open Schema

theorem separated_position : position.Separated :=
  .tuple _ (List.forall_mem_cons.mpr ⟨.primitive _, List.forall_mem_singleton.mpr (.primitive _)⟩)

theorem separated_boundingBox : boundingBox.Separated := .array _ _ (.primitive _)

theorem separated_boxed {fields : List (String × Schema)} (h : ∀ f ∈ fields, f.2.Separated)
    (hkey : "bbox" ∉ fields.map (·.1)) (label : String) : (boxed fields label).Separated := by
  refine .pair (.object _ _ _) (.object _ _ _) ?_ (.object _ _ h)
    (.object _ _ (List.forall_mem_singleton.mpr separated_boundingBox)) _
  rw [declaredKeys_object, declaredKeys_object]
  simpa using hkey

theorem separated_boxed_pair {type key : String} {s : Schema} (h : s.Separated) (hkey : key ≠ "bbox")
    (label : String) : (boxed [("type", tag type), (key, s)] label).Separated := by
  refine separated_boxed ?_ (by simpa using hkey.symm) label
  exact List.forall_mem_cons.mpr ⟨.literal _ _, List.forall_mem_singleton.mpr h⟩

theorem separated_feature : feature.Separated := by
  refine .pair (.object _ _ _) (.object _ _ _) ?_ (.object _ _ ?_) (.object _ _ ?_) _
  · rw [declaredKeys_object, declaredKeys_object]
    simp
  · simp only [List.forall_mem_cons, List.not_mem_nil, false_implies, implies_true, and_true]
    exact ⟨.literal _ _, .union _ _, .union _ _⟩
  · simp only [List.forall_mem_cons, List.not_mem_nil, false_implies, implies_true, and_true]
    exact ⟨.union _ _, separated_boundingBox⟩

theorem separated_of_mem_catalogue : ∀ entry ∈ catalogue, entry.2.Separated := by
  have harray {item : Schema} (h : item.Separated) : (array item).Separated := .array _ _ h
  have hnonEmpty {item : Schema} (h : item.Separated) : (nonEmptyArray item).Separated := .array _ _ h
  have hgeometry (type : String) {s : Schema} (h : s.Separated) : (geometry type s).Separated :=
    separated_boxed_pair h (by decide) _
  have hposition := separated_position
  simp only [catalogue, List.forall_mem_cons, List.not_mem_nil, false_implies, implies_true, and_true]
  refine ⟨.primitive _, .primitive _, .primitive _, .primitive _, .union _ _, .literal _ _, .union _ _,
    .union _ _, separated_boundingBox, ?_, hposition, .union _ _, hgeometry _ hposition,
    hgeometry _ (harray hposition), hgeometry _ (harray hposition),
    hgeometry _ (harray (hnonEmpty hposition)), hgeometry _ (hnonEmpty (hnonEmpty hposition)),
    hgeometry _ (harray (hnonEmpty (hnonEmpty hposition))), .union _ _, ?_, .union _ _, .union _ _,
    separated_feature, ?_⟩
  · exact separated_boxed (List.forall_mem_singleton.mpr (.union _ _)) (by decide) _
  · exact separated_boxed_pair (harray (.union _ _)) (by decide) _
  · exact separated_boxed_pair (harray separated_feature) (by decide) _

end Grammar

/-! ## What is built -/

/-- Where it is separated, what is built blames no place twice, and none inside another. -/
theorem Declaration.no_place_blamed_twice (load : Loader) (environment : Variables String)
    (steps : List Step) :
    (∀ d t after,
      Declaration.build d (Session.afterSteps { load, environment } steps).scope = .ok (t, after) →
      t.schema.Separated → ∀ v path failFast,
        (t.schema.check v path failFast).Pairwise fun a b =>
          a.path ≠ b.path ∧ ¬ a.path <+: b.path ∧ ¬ b.path <+: a.path) ∧
    ∀ entry ∈ Grammar.catalogue, entry.2.Separated := by
  refine ⟨?_, Grammar.separated_of_mem_catalogue⟩
  intro d t after hbuild hs v path failFast
  exact Schema.standApart_check (wellBuilt_of_build rfl steps hbuild) hs v path failFast

theorem Declaration.no_place_blamed_twice_nested :
    ∃ t after, Declaration.build ⟨[], .intersection [
          .object true [("a", .array false (.named "number") none)] none,
          .intersection [.object false [("b", .named "null")] none] none] none⟩
        (Session.afterSteps { environment := [] } []).scope = .ok (t, after) ∧
      let issues := t.schema.check (.object [("b", .int 0), ("a", .list [.null, .int 1, .text ""])]) [] false
      issues.map (·.path) = [[.key "a", .index 0], [.key "a", .index 2], [.key "b"]] ∧
        issues.Pairwise fun a b => a.path ≠ b.path ∧ ¬ a.path <+: b.path ∧ ¬ b.path <+: a.path := by
  have hbuild : ∃ t after, Declaration.build ⟨[], .intersection [
          .object true [("a", .array false (.named "number") none)] none,
          .intersection [.object false [("b", .named "null")] none] none] none⟩
        (Session.afterSteps { environment := [] } []).scope = .ok (t, after) ∧
      t.schema = .intersection [.object true [("a", .array false Grammar.number none)] none,
        .intersection [.object false [("b", Grammar.null)] none] none] none := ⟨_, _, rfl, rfl⟩
  obtain ⟨t, after, hbuild, hschema⟩ := hbuild
  have hs : t.schema.Separated := by
    have hfree : ∀ m ∈ [Schema.object false [("b", Grammar.null)] none], m.DescribesObjects :=
      List.forall_mem_singleton.mpr (.object _ _ _)
    rw [hschema]
    refine .pair (.object _ _ _) (.intersection _ (List.cons_ne_nil _ _) hfree) ?_
      (.object _ _ (List.forall_mem_singleton.mpr (.array _ _ (.primitive _))))
      (.intersection _ hfree (List.pairwise_singleton _ _) (List.forall_mem_singleton.mpr
        (.object _ _ (List.forall_mem_singleton.mpr (.primitive _))))) none
    simp [Schema.declaredKeys_object, Schema.declaredKeys_intersection]
  refine ⟨t, after, hbuild, ?_, (no_place_blamed_twice Settings.ofSources [] []).1 _ t after hbuild hs _ _ _⟩
  rw [hschema]
  rfl

end GeoSchema
