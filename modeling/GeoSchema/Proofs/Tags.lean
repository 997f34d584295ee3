import GeoSchema.Proofs.Recognition

/-!
# Objects are told apart by their type

The nine kinds of object of the grammar have a tag each. A value is of one kind at most, which its
type names, so that the order in which a union asks for the kinds plays no part.
-/

namespace GeoSchema

/-! ## What decides a union -/

namespace Schema

mutual

/-- The schema that accepts the value in the end, below all unions. -/
def decider? : Schema → Value → Option Schema
  | .union alternatives _, v => firstDecider? alternatives v
  | s, v => if s.accepts v then some s else none

def firstDecider? : List Schema → Value → Option Schema
  | [], _ => none
  | a :: rest, v => (decider? a v).or (firstDecider? rest v)

end

variable {v : Value} {label : Option String}

theorem firstDecider?_eq_none_iff {alternatives : List Schema} :
    firstDecider? alternatives v = none ↔ ∀ a ∈ alternatives, decider? a v = none := by
  induction alternatives with
  | nil => simp [firstDecider?]
  | cons a rest ih => rw [firstDecider?, Option.or_eq_none_iff, ih, List.forall_mem_cons]

theorem decider?_eq_none_iff {s : Schema} : s.decider? v = none ↔ s.accepts v = false := by
  induction s with
  | union alternatives label ih =>
    rw [decider?, firstDecider?_eq_none_iff, ← Bool.not_eq_true, accepts_union]
    simp only [not_exists, not_and, Bool.not_eq_true]
    exact forall₂_congr fun a ha => ih a ha
  | _ => simp [decider?]

theorem accepts_iff_exists_decider? {s : Schema} : s.accepts v ↔ ∃ d, s.decider? v = some d := by
  rw [← Option.ne_none_iff_exists', Ne, decider?_eq_none_iff, Bool.not_eq_false]

theorem firstDecider?_eq_find? (alternatives : List Schema) :
    firstDecider? alternatives v =
      (alternatives.find? (·.accepts v)).bind fun a => a.decider? v := by
  induction alternatives with
  | nil => rfl
  | cons a rest ih =>
    rw [firstDecider?, List.find?_cons, ih]
    cases h : a.accepts v with
    | true =>
      obtain ⟨s, hs⟩ := accepts_iff_exists_decider?.mp h
      simp [hs]
    | false =>
      rw [decider?_eq_none_iff.mpr h]
      simp

/-- Where no two alternatives accept the value, their order does not matter. -/
theorem decider?_union_eq_some_iff {alternatives : List Schema} {s : Schema}
    (hunique : ∀ a ∈ alternatives, ∀ b ∈ alternatives, a.accepts v → b.accepts v → a = b) :
    (union alternatives label).decider? v = some s ↔ ∃ a ∈ alternatives, a.decider? v = some s := by
  rw [decider?, firstDecider?_eq_find?, Option.bind_eq_some_iff]
  constructor
  · rintro ⟨a, ha, hs⟩
    exact ⟨a, List.mem_of_find?_eq_some ha, hs⟩
  · rintro ⟨a, ha, hs⟩
    have haccepts : a.accepts v := accepts_iff_exists_decider?.mpr ⟨s, hs⟩
    have hfound : (alternatives.find? (·.accepts v)).isSome := by
      rw [List.find?_isSome]
      exact ⟨a, ha, haccepts⟩
    obtain ⟨b, hb⟩ := Option.isSome_iff_exists.mp hfound
    have hbaccepts := List.find?_some hb
    obtain rfl := hunique a ha b (List.mem_of_find?_eq_some hb) haccepts hbaccepts
    exact ⟨a, hb, hs⟩

theorem decider?_union_perm {alternatives order : List Schema} {label orderLabel : Option String}
    (horder : order.Perm alternatives)
    (hunique : ∀ a ∈ alternatives, ∀ b ∈ alternatives, a.accepts v → b.accepts v → a = b) :
    (union order orderLabel).decider? v = (union alternatives label).decider? v := by
  apply Option.ext
  intro s
  have huniqueOrder : ∀ a ∈ order, ∀ b ∈ order, a.accepts v → b.accepts v → a = b := by
    simpa only [horder.mem_iff] using hunique
  rw [decider?_union_eq_some_iff huniqueOrder, decider?_union_eq_some_iff hunique]
  simp only [horder.mem_iff]

end Schema

/-! ## Kinds of objects -/

namespace Grammar

open Schema Value

inductive ObjectKind where
  | point
  | multiPoint
  | lineString
  | multiLineString
  | polygon
  | multiPolygon
  | geometryCollection
  | feature
  | featureCollection
deriving DecidableEq, Repr

namespace ObjectKind

def tag : ObjectKind → String
  | .point => "Point"
  | .multiPoint => "MultiPoint"
  | .lineString => "LineString"
  | .multiLineString => "MultiLineString"
  | .polygon => "Polygon"
  | .multiPolygon => "MultiPolygon"
  | .geometryCollection => "GeometryCollection"
  | .feature => "Feature"
  | .featureCollection => "FeatureCollection"

def schema : ObjectKind → Schema
  | .point => Grammar.point
  | .multiPoint => Grammar.multiPoint
  | .lineString => Grammar.lineString
  | .multiLineString => Grammar.multiLineString
  | .polygon => Grammar.polygon
  | .multiPolygon => Grammar.multiPolygon
  | .geometryCollection => Grammar.geometryCollection
  | .feature => Grammar.feature
  | .featureCollection => Grammar.featureCollection

def direct : List ObjectKind :=
  [.point, .multiPoint, .lineString, .multiLineString, .polygon, .multiPolygon]

def geometries : List ObjectKind := direct ++ [.geometryCollection]

theorem tag_injective {kind kind' : ObjectKind} (h : kind.tag = kind'.tag) : kind = kind' := by
  revert h
  cases kind <;> cases kind' <;> decide

end ObjectKind

open ObjectKind

variable {v : Value}

theorem type_of_accepts_tagged {type : String} {fields free : List (String × Schema)}
    {label : Option String}
    (h : (Schema.intersection [required (("type", Grammar.tag type) :: fields), Grammar.optional free]
      label).accepts v) : v.member? "type" = some (.text type) := by
  obtain ⟨members, rfl, hlookup, _⟩ := (recognizes_tagged _ _ _ _ v).mp h
  rw [member?_object, hlookup]

theorem type_of_accepts {kind : ObjectKind} (h : kind.schema.accepts v) :
    v.member? "type" = some (.text kind.tag) := by
  cases kind <;> exact type_of_accepts_tagged h

theorem kind_unique {kind kind' : ObjectKind} (h : kind.schema.accepts v)
    (h' : kind'.schema.accepts v) : kind = kind' := by
  have htype := (type_of_accepts h).symm.trans (type_of_accepts h')
  rw [Option.some.injEq, Value.text.injEq] at htype
  exact tag_injective htype

/-! ## Unions of kinds -/

theorem accepts_directGeometryObject :
    directGeometryObject.accepts v ↔ ∃ kind ∈ direct, kind.schema.accepts v := by
  have hmap : directGeometryObject = .union (direct.map schema) "DirectGeometryObjectIO" := rfl
  rw [hmap, accepts_union]
  simp

theorem accepts_geometryObject :
    geometryObject.accepts v ↔ ∃ kind ∈ geometries, kind.schema.accepts v := by
  unfold geometryObject geometries
  rw [accepts_union]
  simp only [List.mem_cons, List.not_mem_nil, or_false, exists_eq_left,
    accepts_directGeometryObject, List.mem_append, or_and_right, exists_or]
  rfl

theorem accepts_iff_of_type {kinds : List ObjectKind} {s : Schema}
    (h : s.accepts v ↔ ∃ kind ∈ kinds, kind.schema.accepts v) :
    s.accepts v ↔ ∃ kind ∈ kinds, v.member? "type" = some (.text kind.tag) ∧ kind.schema.accepts v := by
  rw [h]
  refine exists_congr fun kind => and_congr_right fun _ => ?_
  exact ⟨fun haccepts => ⟨type_of_accepts haccepts, haccepts⟩, fun haccepts => haccepts.2⟩

theorem decider?_schema_eq_some_iff {kind : ObjectKind} {s : Schema} :
    kind.schema.decider? v = some s ↔ kind.schema.accepts v ∧ kind.schema = s := by
  have hdecider : kind.schema.decider? v = if kind.schema.accepts v then some kind.schema else none := by
    cases kind <;> rfl
  rw [hdecider]
  split
  · rename_i h
    simp [h]
  · rename_i h
    simp [h]

/-! ## Orders of the alternatives -/

variable {alternatives : List Schema} {label : Option String}

theorem decider?_direct_eq_some_iff (horder : alternatives.Perm (direct.map schema)) {s : Schema} :
    (Schema.union alternatives label).decider? v = some s ↔
      ∃ kind ∈ direct, kind.schema.accepts v ∧ kind.schema = s := by
  have hmem {a : Schema} : a ∈ alternatives ↔ ∃ kind ∈ direct, kind.schema = a := by
    rw [horder.mem_iff, List.mem_map]
  rw [decider?_union_eq_some_iff]
  · constructor
    · rintro ⟨a, ha, hs⟩
      obtain ⟨kind, hkind, rfl⟩ := hmem.mp ha
      exact ⟨kind, hkind, decider?_schema_eq_some_iff.mp hs⟩
    · rintro ⟨kind, hkind, hs⟩
      exact ⟨kind.schema, hmem.mpr ⟨kind, hkind, rfl⟩, decider?_schema_eq_some_iff.mpr hs⟩
  · intro a ha b hb haccepts hbaccepts
    obtain ⟨kind, _, rfl⟩ := hmem.mp ha
    obtain ⟨kind', _, rfl⟩ := hmem.mp hb
    rw [kind_unique haccepts hbaccepts]

theorem decider?_geometries_eq_some_iff {outer : List Schema} {outerLabel : Option String}
    (horder : alternatives.Perm (direct.map schema))
    (houter : outer.Perm [.union alternatives label, geometryCollection]) {s : Schema} :
    (Schema.union outer outerLabel).decider? v = some s ↔
      ∃ kind ∈ geometries, kind.schema.accepts v ∧ kind.schema = s := by
  have hcollection : geometryCollection = ObjectKind.geometryCollection.schema := rfl
  have hmem {a : Schema} : a ∈ outer ↔ a = .union alternatives label ∨ a = geometryCollection := by
    rw [houter.mem_iff]
    simp
  -- A direct geometry is no collection.
  have hapart : ¬ ((Schema.union alternatives label).accepts v ∧ geometryCollection.accepts v) := by
    rintro ⟨hdirect, hcollected⟩
    obtain ⟨d, hd⟩ := accepts_iff_exists_decider?.mp hdirect
    obtain ⟨kind, hkind, haccepts, _⟩ := (decider?_direct_eq_some_iff horder).mp hd
    obtain rfl : kind = .geometryCollection := kind_unique haccepts hcollected
    exact absurd hkind (by decide)
  rw [decider?_union_eq_some_iff]
  · unfold geometries
    simp only [hmem, List.mem_append, List.mem_singleton, or_and_right, exists_or, exists_eq_left]
    rw [decider?_direct_eq_some_iff horder, hcollection, decider?_schema_eq_some_iff]
  · intro a ha b hb haccepts hbaccepts
    rcases hmem.mp ha with rfl | rfl <;> rcases hmem.mp hb with rfl | rfl
    · rfl
    · exact absurd ⟨haccepts, hbaccepts⟩ hapart
    · exact absurd ⟨hbaccepts, haccepts⟩ hapart
    · rfl

/-- The type of an object decides its kind, in any order of the alternatives. -/
theorem type_decides_kind (v : Value) :
    (∀ kind : ObjectKind, kind.schema.accepts v → v.member? "type" = some (.text kind.tag)) ∧
    (∀ kind kind' : ObjectKind, kind.schema.accepts v → kind'.schema.accepts v → kind = kind') ∧
    (directGeometryObject.accepts v ↔
      ∃ kind ∈ direct, v.member? "type" = some (.text kind.tag) ∧ kind.schema.accepts v) ∧
    (geometryObject.accepts v ↔
      ∃ kind ∈ geometries, v.member? "type" = some (.text kind.tag) ∧ kind.schema.accepts v) ∧
    ∀ alternatives label, alternatives.Perm (direct.map schema) →
      ((Schema.union alternatives label).accepts v = directGeometryObject.accepts v ∧
        (Schema.union alternatives label).decider? v = directGeometryObject.decider? v) ∧
      ∀ outer outerLabel, outer.Perm [.union alternatives label, geometryCollection] →
        (Schema.union outer outerLabel).accepts v = geometryObject.accepts v ∧
          (Schema.union outer outerLabel).decider? v = geometryObject.decider? v := by
  refine ⟨fun _ => type_of_accepts, fun _ _ => kind_unique,
    accepts_iff_of_type accepts_directGeometryObject, accepts_iff_of_type accepts_geometryObject, ?_⟩
  have hsame {s s' : Schema} (h : s.decider? v = s'.decider? v) :
      s.accepts v = s'.accepts v ∧ s.decider? v = s'.decider? v := by
    rw [Bool.eq_iff_iff, accepts_iff_exists_decider?, accepts_iff_exists_decider?, h]
    exact ⟨Iff.rfl, rfl⟩
  intro alternatives label horder
  refine ⟨hsame (Option.ext fun s => ?_), fun outer outerLabel houter => hsame (Option.ext fun s => ?_)⟩
  · exact (decider?_direct_eq_some_iff horder).trans
      (decider?_direct_eq_some_iff (List.Perm.refl _)).symm
  · exact (decider?_geometries_eq_some_iff horder houter).trans
      (decider?_geometries_eq_some_iff (List.Perm.refl _) (List.Perm.refl _)).symm

end Grammar

end GeoSchema
