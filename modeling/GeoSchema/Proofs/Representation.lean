import GeoSchema.Proofs.Acceptance
import GeoSchema.Proofs.Alike
import GeoSchema.Proofs.Parts

/-!
# Representation plays no part

Alike values are accepted alike. A schema without dictionaries reports alike issues of them as well,
at the same paths and in the same order; a dictionary reports its entries in the order in which they
stand.
-/

namespace GeoSchema.Schema

open Value Issue

variable {s : Schema} {v w : Value} {path : Path} {failFast : Bool}

/-! ## Leaves -/

theorem primitive_accepts_alike (p : Primitive) (h : v.Alike w) : p.accepts v = p.accepts w := by
  cases h with
  | scalar => rfl
  | sequence hv hw =>
    rcases elements?_eq_some_iff.mp hv with rfl | rfl <;>
      rcases elements?_eq_some_iff.mp hw with rfl | rfl <;> cases p <;> rfl
  | dictionary hv hw =>
    obtain rfl := entries?_eq_some_iff.mp hv
    obtain rfl := entries?_eq_some_iff.mp hw
    cases p <;> rfl

theorem constant_equals_alike (c : Constant) (h : v.Alike w) : c.equals v = c.equals w := by
  cases h with
  | scalar => rfl
  | sequence hv hw =>
    rcases elements?_eq_some_iff.mp hv with rfl | rfl <;>
      rcases elements?_eq_some_iff.mp hw with rfl | rfl <;> cases c <;> rfl
  | dictionary hv hw =>
    obtain rfl := entries?_eq_some_iff.mp hv
    obtain rfl := entries?_eq_some_iff.mp hw
    cases c <;> rfl

/-! ## Acceptance -/

theorem accepts_of_alike (h : v.Alike w) (hv : s.accepts v) : s.accepts w := by
  induction s generalizing v w with
  | primitive p =>
    rw [accepts_primitive] at hv ⊢
    rw [← primitive_accepts_alike p h]
    exact hv
  | literal c label =>
    rw [accepts_literal, ← Constant.equals_iff] at hv ⊢
    rw [← constant_equals_alike c h]
    exact hv
  | tuple items label ih =>
    obtain ⟨elements, helements, hlen, hitems⟩ := accepts_tuple.mp hv
    obtain ⟨others, hothers, halike⟩ := h.elements?_some helements
    refine accepts_tuple.mpr ⟨others, hothers, by rw [← halike.length_eq, hlen], ?_⟩
    exact forall_mem_of_forall₂ (forall₂_zip halike fun item hitem _ _ => ih item hitem) hitems
  | array nonEmpty item label ih =>
    obtain ⟨elements, helements, hne, hitems⟩ := accepts_array.mp hv
    obtain ⟨others, hothers, halike⟩ := h.elements?_some helements
    refine accepts_array.mpr ⟨others, hothers, ?_, ?_⟩
    · intro hnonEmpty hnil
      rw [hnil, List.forall₂_nil_right_iff] at halike
      exact hne hnonEmpty halike
    · exact forall_mem_of_forall₂ (halike.imp fun _ _ => ih) hitems
  | dictionary key value label ihkey ihvalue =>
    obtain ⟨entries, hentries, hall⟩ := accepts_dictionary.mp hv
    obtain ⟨others, hothers, hkeys, hcontents⟩ := h.entries?_some hentries
    refine accepts_dictionary.mpr ⟨others, hothers, ?_⟩
    rintro ⟨k, y⟩ hy
    obtain ⟨x, hx⟩ := (hkeys k).mpr ⟨y, hy⟩
    obtain ⟨hkey, hvalue⟩ := hall (k, x) hx
    exact ⟨hkey, ihvalue (hcontents k x y hx hy) hvalue⟩
  | object required fields label ih =>
    obtain ⟨members, hmembers, hall⟩ := accepts_object.mp hv
    obtain ⟨others, hothers, hlookup⟩ := h.members?_some hmembers
    refine accepts_object.mpr ⟨others, hothers, ?_⟩
    intro f hf
    have hfield := hall f hf
    have hrel := hlookup f.1
    generalize members.lookup f.1 = held at hfield hrel
    generalize others.lookup f.1 = held' at hrel ⊢
    cases hrel with
    | none => exact hfield
    | some halike => simpa using ih f hf halike (hfield.2 _ rfl)
  | union alternatives label ih =>
    obtain ⟨a, ha, haccepts⟩ := accepts_union.mp hv
    exact accepts_union.mpr ⟨a, ha, ih a ha h haccepts⟩
  | intersection members label ih =>
    rw [accepts_intersection] at hv ⊢
    exact fun m hm => ih m hm h (hv m hm)

theorem accepts_alike (s : Schema) (h : v.Alike w) : s.accepts v = s.accepts w := by
  rw [Bool.eq_iff_iff]
  exact ⟨accepts_of_alike h, accepts_of_alike h.symm⟩

/-! ## Issues -/

theorem Refuses.of_alike {kind : IssueKind} (h : v.Alike w) (hv : s.Refuses v kind) :
    s.Refuses w kind := by
  cases hv with
  | primitive hp =>
    rw [primitive_accepts_alike _ h] at hp
    exact .primitive hp
  | literal hc =>
    rw [← Constant.equals_iff, constant_equals_alike _ h, Constant.equals_iff] at hc
    exact .literal hc
  | tuple hnone => exact .tuple (h.elements?_none hnone)
  | tupleLength helements hlen =>
    obtain ⟨others, hothers, halike⟩ := h.elements?_some helements
    rw [halike.length_eq] at hlen
    exact .tupleLength hothers hlen
  | array hnone => exact .array (h.elements?_none hnone)
  | emptyArray hempty =>
    obtain ⟨others, hothers, halike⟩ := h.elements?_some hempty
    obtain rfl := List.forall₂_nil_left_iff.mp halike
    exact .emptyArray hothers
  | dictionary hnone => exact .dictionary (h.entries?_none hnone)
  | object hnone => exact .object (h.entries?_none hnone)
  | objectKey hentries hkey =>
    obtain ⟨others, hothers, hkeys, _⟩ := h.entries?_some hentries
    obtain ⟨e, he, hno⟩ := hkey
    obtain ⟨y, hy⟩ := (hkeys e.1).mp ⟨e.2, he⟩
    exact .objectKey hothers ⟨_, hy, hno⟩

theorem check_alike_of_refuses {kind : IssueKind} (h : v.Alike w) (hv : s.Refuses v kind) :
    AllAlike (s.check v path failFast) (s.check w path failFast) := by
  rw [check_of_refuses path failFast hv, check_of_refuses path failFast (hv.of_alike h)]
  exact .refusal _ _ _ h

theorem stopsEarly_alike {found found' : List Issue} (h : AllAlike found found') :
    stopsEarly failFast found = stopsEarly failFast found' := by
  unfold stopsEarly
  rw [h.isEmpty_eq]

theorem wrongShapeAt_alike {found found' : List Issue} (h : AllAlike found found') :
    wrongShapeAt path found = wrongShapeAt path found' := by
  unfold wrongShapeAt
  induction h with
  | nil => rfl
  | cons hissue _ ih =>
    cases hissue
    rw [List.any_cons, List.any_cons, ih]

theorem stopsMembers_alike {found found' : List Issue} (h : AllAlike found found') :
    stopsMembers path failFast found = stopsMembers path failFast found' := by
  unfold stopsMembers
  rw [stopsEarly_alike h, wrongShapeAt_alike h]

theorem fieldIssues_alike {required : Bool} {members others : List (String × Value)}
    {f : String × Schema} (h : Option.Rel Value.Alike (members.lookup f.1) (others.lookup f.1))
    (ih : ∀ {x y : Value}, x.Alike y →
      AllAlike (f.2.check x (path ++ [.key f.1]) failFast) (f.2.check y (path ++ [.key f.1]) failFast)) :
    AllAlike (fieldIssues required members path failFast f)
      (fieldIssues required others path failFast f) := by
  unfold fieldIssues
  generalize members.lookup f.1 = held at h ⊢
  generalize others.lookup f.1 = held' at h ⊢
  cases h with
  | some halike => exact ih halike
  | none =>
    cases required with
    | true => exact .refusal _ _ _ (.scalar rfl rfl)
    | false => exact .nil

def isDictionary : Schema → Bool
  | .dictionary .. => true
  | _ => false

def dictionaryFree (s : Schema) : Bool := s.throughout fun part => !part.isDictionary

theorem dictionaryFree_part {part : Schema} (h : s.dictionaryFree = true) (hpart : part ∈ s.parts) :
    part.dictionaryFree = true :=
  throughout_part h hpart

theorem check_alike (h : v.Alike w) (hs : s.dictionaryFree = true) :
    AllAlike (s.check v path failFast) (s.check w path failFast) := by
  induction s generalizing v w path with
  | primitive p =>
    rcases accepts_or_refuses p v with hp | ⟨_, hrefuses⟩
    · have hp' : p.accepts w = true := by rw [← primitive_accepts_alike p h, hp]
      rw [check_primitive path failFast hp, check_primitive path failFast hp']
      exact .nil
    · exact check_alike_of_refuses h hrefuses
  | literal c label =>
    rcases strictlyEquals_or_refuses c label v with hc | ⟨_, hrefuses⟩
    · have hc' : c.StrictlyEquals w := by
        rw [← Constant.equals_iff, ← constant_equals_alike c h, Constant.equals_iff]
        exact hc
      rw [check_literal path failFast hc, check_literal path failFast hc']
      exact .nil
    · exact check_alike_of_refuses h hrefuses
  | tuple items label ih =>
    rcases elements_or_refuses_tuple items label v with ⟨elements, hv, hlen⟩ | ⟨_, hrefuses⟩
    · obtain ⟨others, hw, halike⟩ := h.elements?_some hv
      have hlen' : others.length = items.length := by rw [← halike.length_eq, hlen]
      rw [check_tuple path failFast hv hlen, check_tuple path failFast hw hlen']
      have hitems : List.Forall₂
          (fun a b => ∀ path, AllAlike (check a.1 a.2 path failFast) (check b.1 b.2 path failFast))
          (items.zip elements) (items.zip others) :=
        forall₂_zip halike fun item hitem _ _ hxy _ =>
          ih item hitem hxy (dictionaryFree_part hs hitem)
      refine gatherUntil_forall₂ stopsEarly_alike ((forall₂_zipIdx hitems 0).imp ?_)
      rintro a b ⟨hab, hindex⟩
      unfold elementIssues
      rw [hindex]
      exact hab _
    · exact check_alike_of_refuses h hrefuses
  | array nonEmpty item label ih =>
    rcases elements_or_refuses_array nonEmpty item label v with ⟨elements, hv, hne⟩ | ⟨_, hrefuses⟩
    · obtain ⟨others, hw, halike⟩ := h.elements?_some hv
      have hne' : nonEmpty = true → others ≠ [] := by
        rintro hnonEmpty rfl
        exact hne hnonEmpty (List.forall₂_nil_right_iff.mp halike)
      rw [check_array path failFast hv hne, check_array path failFast hw hne']
      refine gatherUntil_forall₂ stopsEarly_alike ((forall₂_zipIdx halike 0).imp ?_)
      rintro a b ⟨hab, hindex⟩
      rw [hindex]
      exact ih hab (dictionaryFree_part hs List.mem_cons_self)
    · exact check_alike_of_refuses h hrefuses
  | dictionary key value label =>
    have hnot := (throughout_iff.mp hs).1
    simp [isDictionary] at hnot
  | object required fields label ih =>
    rcases members_or_refuses required fields label v with ⟨members, hv⟩ | ⟨_, hrefuses⟩
    · obtain ⟨others, hw, hlookup⟩ := h.members?_some hv
      rw [check_object path failFast hv, check_object path failFast hw]
      refine gatherUntil_forall₂ stopsEarly_alike (List.forall₂_same.mpr fun f hf => ?_)
      have hpart : f.2.dictionaryFree = true := dictionaryFree_part hs (List.mem_map_of_mem hf)
      exact fieldIssues_alike (hlookup f.1) fun hxy => ih f hf hxy hpart
    · exact check_alike_of_refuses h hrefuses
  | union alternatives label ih =>
    have hiff (a : Schema) : check a v path failFast = [] ↔ check a w path failFast = [] := by
      rw [check_eq_nil_iff_accepts, check_eq_nil_iff_accepts, accepts_alike a h]
    rcases clean_or_refused alternatives v path failFast with ⟨a, ha, hnil⟩ | hrefused
    · rw [check_union_of_clean path failFast ⟨a, ha, hnil⟩,
        check_union_of_clean path failFast ⟨a, ha, (hiff a).mp hnil⟩]
      exact .nil
    · rw [check_union_of_refused path failFast hrefused,
        check_union_of_refused path failFast fun a ha hnil => hrefused a ha ((hiff a).mpr hnil)]
      refine .cons (.intro _ _ _ h ?_) .nil
      have hsame : List.Forall₂ (fun a b => a = b ∧ a ∈ alternatives) alternatives alternatives :=
        List.forall₂_same.mpr fun a ha => ⟨rfl, ha⟩
      apply List.rel_flatMap hsame
      rintro a _ ⟨rfl, ha⟩
      exact ih a ha h (dictionaryFree_part hs ha)
  | intersection members label ih =>
    rw [check_intersection, check_intersection]
    refine gatherUntil_forall₂ stopsMembers_alike (List.forall₂_same.mpr fun m hm => ?_)
    exact ih m hm h (dictionaryFree_part hs hm)

/-! ## Two representations of one document -/

/-- Lists for tuples and the order of entries play no part in what is accepted. -/
theorem check_representation_independent (s : Schema) {v w : Value} (h : v.Alike w) :
    s.accepts v = s.accepts w ∧
      (s.dictionaryFree = true → ∀ path failFast,
        List.Forall₂ Issue.Alike (s.check v path failFast) (s.check w path failFast)) :=
  ⟨accepts_alike s h, fun hs _ _ => check_alike h hs⟩

theorem check_representation_independent_reordered :
    (Value.object [("a", .list [.text "x"]), ("b", .null)]).Alike
        (.object [("b", .null), ("a", .tuple [.text "x"])]) ∧
      accepts (.object true [("a", .array false (.primitive .number) none)] none)
          (.object [("a", .list [.text "x"]), ("b", .null)]) =
        accepts (.object true [("a", .array false (.primitive .number) none)] none)
          (.object [("b", .null), ("a", .tuple [.text "x"])]) ∧
      List.Forall₂ Issue.Alike
        (check (.object true [("a", .array false (.primitive .number) none)] none)
          (.object [("a", .list [.text "x"]), ("b", .null)]) [] false)
        (check (.object true [("a", .array false (.primitive .number) none)] none)
          (.object [("b", .null), ("a", .tuple [.text "x"])]) [] false) := by
  have hsequence : (Value.list [.text "x"]).Alike (.tuple [.text "x"]) :=
    .sequence rfl rfl (.cons (.scalar rfl rfl) .nil)
  have hnull : Value.null.Alike .null := .scalar rfl rfl
  have halike : (Value.object [("a", .list [.text "x"]), ("b", .null)]).Alike
      (.object [("b", .null), ("a", .tuple [.text "x"])]) := by
    refine .dictionary rfl rfl (fun k => ?_) fun k x y hx hy => ?_
    · simp [or_comm, exists_or]
    · simp only [List.map_cons, List.map_nil, List.mem_cons, List.not_mem_nil, or_false,
        Prod.mk.injEq] at hx hy
      grind
  obtain ⟨haccepts, hissues⟩ := check_representation_independent
    (.object true [("a", .array false (.primitive .number) none)] none) halike
  exact ⟨halike, haccepts, hissues (by decide) [] false⟩

end GeoSchema.Schema
