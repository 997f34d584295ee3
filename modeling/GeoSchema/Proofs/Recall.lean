import GeoSchema.Proofs.Inhabitants
import GeoSchema.Schema.Memory

/-!
# Remembered types

A type that is remembered stands in for a type that would be formed of the same parts. It was formed of
parts that count as the same: a zero may come with its other sign, and the members of a union in
another order.
-/

namespace GeoSchema

open Value ValueType

/-! ## Tables -/

theorem exists_recalled {κ α : Type} {P : κ → α → Prop} (same : κ → κ → Bool) {key : κ} {new : α}
    {known : List (κ × α)} (hsame : same key key = true) (hnew : P key new)
    (hknown : ∀ e ∈ known, P e.1 e.2) :
    (∃ k, same k key = true ∧ P k (recalled same key new known).1) ∧
      ∀ e ∈ (recalled same key new known).2, P e.1 e.2 := by
  unfold recalled
  cases hfound : known.find? fun e => same e.1 key with
  | some e =>
    have hmem : e ∈ known := List.mem_of_find?_eq_some hfound
    have hkey := List.find?_some hfound
    refine ⟨⟨e.1, hkey, hknown e hmem⟩, ?_⟩
    rw [List.forall_mem_cons]
    exact ⟨hknown e hmem, fun other hother => hknown other (List.mem_of_mem_eraseP hother)⟩
  | none =>
    refine ⟨⟨key, hsame, hnew⟩, fun e he => ?_⟩
    rcases List.mem_cons.mp (List.mem_of_mem_take he) with rfl | he
    · exact hnew
    · exact hknown e he

theorem Formation.same_self (f : Formation) : f.same f = true := by
  rw [Formation.same, sameItems_self, BEq.rfl, Bool.true_and]

theorem LiteralKey.same_self (k : LiteralKey) : k.same k = true := sameConstant_self k.constant k.mark

/-! ## Fields -/

/-- The same fields, but for the spelling of the contents. -/
def Field.Shown (shown declared : List (Field ValueType)) : Prop :=
  List.Forall₂ (fun f g => f.key = g.key ∧ f.required = g.required ∧ same f.content g.content = true)
    shown declared

theorem Field.shown_self (declared : List (Field ValueType)) : Shown declared declared :=
  List.forall₂_same.mpr fun f _ => ⟨rfl, rfl, same_self f.content⟩

theorem Value.fits_iff_of_shown {shown declared : List (Field ValueType)}
    (h : Field.Shown shown declared) (v : Value) : v.Fits shown ↔ v.Fits declared := by
  refine and_congr_right fun _ => ?_
  induction h with
  | nil => rfl
  | cons hfg _ ih =>
    obtain ⟨hkey, hrequired, hsame⟩ := hfg
    rw [List.forall_mem_cons, List.forall_mem_cons, ih, FitsField, FitsField, hkey, hrequired]
    refine and_congr_left fun _ => and_congr_right fun _ => ?_
    exact forall₂_congr fun w _ => inhabits_iff_of_same hsame w

/-! ## The memory -/

/-- What a former makes of types that it meets for the first time. -/
def Former.form : Former → List ValueType → ValueType
  | .union, parts => unionOf parts
  | _, parts => parts.headD .any

namespace Memory

structure Formed (memory : Memory) : Prop where
  formed : ∀ e ∈ memory.formed, e.2 = e.1.former.form e.1.parts
  literals : ∀ e ∈ memory.literals, e.2 = .literal e.1.constant e.1.mark

variable {memory : Memory}

theorem formed_form (hmemory : memory.Formed) (former : Former) (parts : List ValueType) :
    (∃ spelled, sameItems spelled parts = true ∧
      (memory.form former parts (former.form parts)).1 = former.form spelled) ∧
      (memory.form former parts (former.form parts)).2.Formed := by
  obtain ⟨⟨k, hk, htype⟩, hformed⟩ := exists_recalled
    (P := fun k t => t = k.former.form k.parts)
    Formation.same (Formation.same_self ⟨former, parts⟩) rfl hmemory.formed
  rw [Formation.same, Bool.and_eq_true, beq_iff_eq] at hk
  obtain ⟨hformer, hparts⟩ := hk
  refine ⟨⟨k.parts, hparts, ?_⟩, hformed, hmemory.literals⟩
  rw [hformer] at htype
  exact htype

theorem formed_literal (hmemory : memory.Formed) (c : Constant) (mark : Nat) :
    (∃ c' mark', sameConstant c' mark' c mark = true ∧
      (memory.literal c mark).1 = .literal c' mark') ∧ (memory.literal c mark).2.Formed := by
  obtain ⟨⟨k, hk, htype⟩, hliterals⟩ := exists_recalled
    (P := fun k t => t = ValueType.literal k.constant k.mark)
    LiteralKey.same (LiteralKey.same_self ⟨c, mark⟩) rfl hmemory.literals
  exact ⟨⟨k.constant, k.mark, hk, htype⟩, hmemory.formed, hliterals⟩

theorem formed_fields (hmemory : memory.Formed) (declared : List (Field ValueType)) :
    Field.Shown (memory.fields declared).1 declared ∧ (memory.fields declared).2.Formed := by
  induction declared generalizing memory with
  | nil => exact ⟨.nil, hmemory⟩
  | cons f rest ih =>
    have halone (a : ValueType) : (if f.required then Former.required else .optional).form [a] = a := by
      split <;> rfl
    obtain ⟨⟨spelled, hspelled, htype⟩, hform⟩ :=
      formed_form hmemory (if f.required then .required else .optional) [f.content]
    rw [halone] at htype hform
    obtain ⟨hrest, hafter⟩ := ih hform
    refine ⟨.cons ⟨rfl, rfl, ?_⟩ hrest, hafter⟩
    rcases sameItems_iff.mp hspelled with _ | ⟨hsame, ⟨⟩⟩
    rw [halone] at htype
    rw [← htype] at hsame
    exact hsame

theorem formed_typedDict (hmemory : memory.Formed) (name : String) (mark : Nat)
    (declared : List (Field ValueType)) :
    (∃ shown, Field.Shown shown declared ∧
      (memory.typedDict name mark declared).1 = typedDictOf name mark shown) ∧
      (memory.typedDict name mark declared).2.Formed := by
  obtain ⟨hshown, hafter⟩ := formed_fields hmemory declared
  exact ⟨⟨_, hshown, rfl⟩, hafter⟩

end Memory

end GeoSchema
