import GeoSchema.Proofs.Scopes
import GeoSchema.Proofs.Shape
import Mathlib.Data.Option.Basic

/-!
# What schemas inherit from their parts

What the schemas of the grammar have, and every kind of declaration hands on from the parts to the
whole, all schemas have that are ever built. A condition on what is remembered may be handed on with it.
-/

namespace GeoSchema

/-- What building starts from, with a name or without. -/
def Grammar.given : List Schema := featureGeometry :: featureId :: catalogue.map (·.2)

namespace TypedSchema

variable {M : Memory → Prop} {P : TypedSchema → Prop}

/-- From such a memory it makes a schema with the property, and leaves such a memory. -/
def HandsOn (M : Memory → Prop) (P : TypedSchema → Prop)
    (declaration : Memory → TypedSchema × Memory) : Prop :=
  ∀ memory, M memory → P (declaration memory).1 ∧ M (declaration memory).2

def AnyMemory (_ : Memory) : Prop := True

theorem handsOn_of_forall {declaration : Memory → TypedSchema × Memory}
    (h : ∀ memory, P (declaration memory).1) : HandsOn AnyMemory P declaration :=
  fun memory _ => ⟨h memory, trivial⟩

/-- A property that every kind of declaration hands on. -/
structure Inherited (M : Memory → Prop) (P : TypedSchema → Prop) : Prop where
  given : ∀ s ∈ Grammar.given, P (ofSchema s)
  literal : ∀ c label mark, HandsOn M P (TypedSchema.literal c label mark)
  tuple : ∀ {items}, (∀ t ∈ items, P t) → ∀ label, P (TypedSchema.tuple items label)
  array : ∀ {item}, P item → ∀ nonEmpty label, P (TypedSchema.array nonEmpty item label)
  dictionary : ∀ {key value}, P key → P value → ∀ label, P (TypedSchema.dictionary key value label)
  object : ∀ {fields}, (fields.map (·.1)).Nodup → (∀ f ∈ fields, P f.2) →
    ∀ required label mark, HandsOn M P (TypedSchema.object required fields label mark)
  union : ∀ {alternatives}, alternatives ≠ [] → (∀ t ∈ alternatives, P t) →
    ∀ label, HandsOn M P (TypedSchema.union alternatives label)
  intersection : ∀ {members}, members ≠ [] → (∀ t ∈ members, P t) →
    ∀ label mark, HandsOn M P (TypedSchema.intersection members label mark)

namespace Inherited

theorem catalogue (h : Inherited M P) : ∀ entry ∈ GeoSchema.catalogue, P entry.2 := by
  refine List.forall_mem_map.mpr fun entry hentry => h.given entry.2 ?_
  exact List.mem_cons_of_mem _ (List.mem_cons_of_mem _ (List.mem_map_of_mem hentry))

theorem featureWith (h : Inherited M P) {properties : TypedSchema} (hproperties : P properties)
    (label : Option String) (mark : Nat) : HandsOn M P (TypedSchema.featureWith properties label mark) := by
  intro memory hmemory
  have hgeometry : P (ofSchema Grammar.featureGeometry) := h.given _ (by simp [Grammar.given])
  have hid : P (ofSchema Grammar.featureId) := h.given _ (by simp [Grammar.given])
  have hbbox : P (ofSchema Grammar.boundingBox) :=
    h.given _ (by simp [Grammar.given, Grammar.catalogue])
  unfold TypedSchema.featureWith
  -- Each declaration starts from the memory that the one before it leaves. Its result is generalized,
  -- as otherwise these memories would be unfolded into each other.
  have htag := h.literal (.text "Feature") none mark memory hmemory
  generalize TypedSchema.literal (.text "Feature") none mark memory = tag at htag ⊢
  have hrequired : ∀ f ∈ [("type", tag.1), ("geometry", ofSchema Grammar.featureGeometry),
      ("properties", properties)], P f.2 := by simp [htag.1, hgeometry, hproperties]
  have hmandatory := h.object (by simp) hrequired true none mark tag.2 htag.2
  have hoptional : ∀ f ∈ [("id", ofSchema Grammar.featureId), ("bbox", ofSchema Grammar.boundingBox)],
      P f.2 := by simp [hid, hbbox]
  dsimp only
  generalize TypedSchema.object true _ none mark tag.2 = mandatory at hmandatory ⊢
  have hfree := h.object (by simp) hoptional false none mark mandatory.2 hmandatory.2
  generalize TypedSchema.object false _ none mark mandatory.2 = free at hfree ⊢
  exact h.intersection (by simp) (by simp [hmandatory.1, hfree.1]) label mark free.2 hfree.2

theorem of_find? (h : Inherited M P) {scope : Scope} (hscope : ∀ d ∈ scope.defined, P d.2)
    {name : String} {t : TypedSchema} (hfound : scope.find? name = some t) : P t := by
  unfold Scope.find? at hfound
  rw [Option.orElse_eq_some] at hfound
  rcases hfound with hdefined | ⟨_, hcatalogue⟩
  · exact hscope _ (Value.mem_of_lookup_eq_some hdefined)
  · exact h.catalogue _ (Value.mem_of_lookup_eq_some hcatalogue)

theorem keeps_declare {declaration : Memory → TypedSchema × Memory} (h : HandsOn M P declaration) :
    Blueprint.Keeps (fun scope => (∀ d ∈ scope.defined, P d.2) ∧ M scope.memory)
      (Blueprint.declare declaration) P := by
  rintro scope ⟨hdefined, hmemory⟩ _ _ ⟨⟩
  obtain ⟨ht, hafter⟩ := h scope.memory hmemory
  exact ⟨ht, hdefined, hafter⟩

theorem invariant (h : Inherited M P) :
    Blueprint.Invariant (fun scope => (∀ d ∈ scope.defined, P d.2) ∧ M scope.memory) P where
  marked hscope := hscope
  found hscope _ _ hfound := h.of_find? hscope.1 hfound
  defined hscope _ ht _ := ⟨List.forall_mem_cons.mpr ⟨ht, hscope.1⟩, hscope.2⟩
  dropped hscope hinner := ⟨hscope.1, hinner.2⟩
  literal c label mark := keeps_declare (h.literal c label mark)
  tuple hparts := h.tuple hparts _
  array hitem := h.array hitem _ _
  dictionary hkey hvalue := h.dictionary hkey hvalue _
  object hkeys hparts required label mark := keeps_declare (h.object hkeys hparts required label mark)
  union hne hparts label := keeps_declare (h.union hne hparts label)
  intersection hne hparts label mark := keeps_declare (h.intersection hne hparts label mark)
  featureWith hproperties label mark := keeps_declare (h.featureWith hproperties label mark)

theorem keeps_afterSteps (h : Inherited M P) (hmemory : M {}) {start : Session} (hstart : start.scope = {})
    (steps : List Step) :
    (∀ d ∈ (start.afterSteps steps).scope.defined, P d.2) ∧ M (start.afterSteps steps).scope.memory := by
  refine Session.keeps_afterSteps h.invariant ?_ steps
  rw [hstart]
  exact ⟨by simp, hmemory⟩

theorem of_build (h : Inherited M P) (hmemory : M {}) {start : Session} (hstart : start.scope = {})
    (steps : List Step) {d : Declaration} {t : TypedSchema} {after : Scope}
    (hbuild : d.build (start.afterSteps steps).scope = .ok (t, after)) : P t :=
  (Declaration.keeps_of_build h.invariant (h.keeps_afterSteps hmemory hstart steps) hbuild).1

end Inherited

end TypedSchema

end GeoSchema
