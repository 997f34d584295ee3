import GeoSchema.Proofs.Recognition
import GeoSchema.Schema.ValueType
import Mathlib.Data.List.Forall2

/-!
# The values of a type

`Value.Inhabits` says which values a type describes. Types that count as the same describe the same
values, and forming a union keeps the values of its members.
-/

namespace GeoSchema

namespace ValueType

/-! ## Induction on types -/

@[elab_as_elim, induction_eliminator]
theorem inductionOnParts {motive : ValueType → Prop}
    (number : motive .number) (text : motive .text) (null : ∀ joined, motive (.null joined))
    (any : motive .any) (literal : ∀ c mark, motive (.literal c mark))
    (tuple : ∀ items, (∀ a ∈ items, motive a) → motive (.tuple items))
    (list : ∀ item, motive item → motive (.list item))
    (dict : ∀ key value, motive key → motive value → motive (.dict key value))
    (union : ∀ members, (∀ a ∈ members, motive a) → motive (.union members))
    (typedDict : ∀ name mark fields, (∀ f ∈ fields, motive f.2.2) →
      motive (.typedDict name mark fields))
    (t : ValueType) : motive t := by
  refine @ValueType.rec motive (fun types => ∀ a ∈ types, motive a)
    (fun fields => ∀ f ∈ fields, motive f.2.2) (fun f => motive f.2.2) (fun f => motive f.2)
    number text null any literal tuple list dict union typedDict ?_ ?_ ?_ ?_ ?_ ?_ t
  · simp
  · intro a rest ha hrest
    exact List.forall_mem_cons.mpr ⟨ha, hrest⟩
  · simp
  · intro f rest hf hrest
    exact List.forall_mem_cons.mpr ⟨hf, hrest⟩
  · intro name f hf
    exact hf
  · intro required a ha
    exact ha

end ValueType

/-! ## Inhabitants -/

namespace Value

/-- A truth value is no number, and a typed dictionary says nothing of other keys. -/
def Inhabits (v : Value) : ValueType → Prop
  | .number => v.IsNumber
  | .text => v.IsText
  | .null _ => v = .null
  | .any => True
  | .literal c _ => c.StrictlyEquals v
  | .tuple items =>
    ∃ elements, (v = .list elements ∨ v = .tuple elements) ∧ elements.length = items.length ∧
      ∀ part (_ : part ∈ items.zip elements), part.2.Inhabits part.1
  | .list item => v.IsSequenceOf fun e => e.Inhabits item
  | .dict key value =>
    ∃ entries, v = .dict entries ∧ ∀ e ∈ entries, e.1.Inhabits key ∧ e.2.Inhabits value
  | .union members => ∃ a, ∃ _ : a ∈ members, v.Inhabits a
  | .typedDict _ _ fields =>
    v.IsObject ∧ ∀ f (_ : f ∈ fields),
      (f.2.1 = true → ∃ w, v.member? f.1 = some w) ∧
        ∀ w, v.member? f.1 = some w → w.Inhabits f.2.2
termination_by t => sizeOf t
decreasing_by
  all_goals simp_wf
  · have := List.sizeOf_lt_of_mem (List.of_mem_zip (by assumption)).1
    omega
  · omega
  · have := List.sizeOf_lt_of_mem (by assumption : a ∈ members)
    omega
  · have := List.sizeOf_lt_of_mem (by assumption : f ∈ fields)
    obtain ⟨key, required, content⟩ := f
    simp only [Prod.mk.sizeOf_spec] at this
    simp only
    omega

def FitsField (v : Value) (f : Field ValueType) : Prop :=
  (f.required = true → ∃ w, v.member? f.key = some w) ∧
    ∀ w, v.member? f.key = some w → w.Inhabits f.content

def Fits (v : Value) (fields : List (Field ValueType)) : Prop :=
  v.IsObject ∧ ∀ f ∈ fields, v.FitsField f

end Value

namespace ValueType

open Value

variable {v : Value}

theorem inhabits_union {members : List ValueType} :
    v.Inhabits (.union members) ↔ ∃ a ∈ members, v.Inhabits a := by
  rw [Inhabits]
  simp only [exists_prop]

theorem inhabits_typedDictOf {name : String} {mark : Nat} {fields : List (Field ValueType)} :
    v.Inhabits (typedDictOf name mark fields) ↔ v.Fits fields := by
  unfold typedDictOf
  rw [Inhabits, Fits, List.forall_mem_map]
  rfl

/-! ## Types that count as the same -/

theorem strictlyEquals_iff_of_sameConstant {c c' : Constant} {mark mark' : Nat}
    (h : sameConstant c mark c' mark' = true) (v : Value) :
    c.StrictlyEquals v ↔ c'.StrictlyEquals v := by
  unfold sameConstant at h
  split at h
  · exact Iff.rfl
  · rename_i x y _
    obtain ⟨q, hx, hy⟩ := (Double.equals_iff x y).mp h
    simp only [Constant.StrictlyEquals, hx, hy]
  · obtain rfl : c = c' := by simpa using h
    exact Iff.rfl

theorem forall₂_of_sameItems {R : ValueType → ValueType → Prop} {items items' : List ValueType}
    (h : sameItems items items' = true)
    (hR : ∀ a ∈ items, ∀ b, same a b = true → R a b) : List.Forall₂ R items items' := by
  induction items generalizing items' with
  | nil =>
    cases items' with
    | nil => exact .nil
    | cons b bs => simp [sameItems] at h
  | cons a rest ih =>
    cases items' with
    | nil => simp [sameItems] at h
    | cons b bs =>
      rw [sameItems, Bool.and_eq_true] at h
      obtain ⟨hab, hrest⟩ := h
      obtain ⟨hRa, hRrest⟩ := List.forall_mem_cons.mp hR
      exact .cons (hRa b hab) (ih hrest hRrest)

theorem forall₂_of_sameFields {R : ValueType → ValueType → Prop}
    {fields fields' : List (String × Bool × ValueType)} (h : sameFields fields fields' = true)
    (hR : ∀ f ∈ fields, ∀ b, same f.2.2 b = true → R f.2.2 b) :
    List.Forall₂ (fun f g => f.1 = g.1 ∧ f.2.1 = g.2.1 ∧ R f.2.2 g.2.2) fields fields' := by
  induction fields generalizing fields' with
  | nil =>
    cases fields' with
    | nil => exact .nil
    | cons b bs => simp [sameFields] at h
  | cons f rest ih =>
    cases fields' with
    | nil => simp [sameFields] at h
    | cons g bs =>
      obtain ⟨key, required, a⟩ := f
      obtain ⟨key', required', b⟩ := g
      simp only [sameFields, Bool.and_eq_true, beq_iff_eq] at h
      obtain ⟨⟨⟨hkey, hrequired⟩, hsame⟩, hrest⟩ := h
      obtain ⟨hRf, hRrest⟩ := List.forall_mem_cons.mp hR
      exact .cons ⟨hkey, hrequired, hRf _ hsame⟩ (ih hrest hRrest)

theorem forall_mem_zip_congr {items items' : List ValueType}
    (h : List.Forall₂ (fun a b => ∀ e : Value, e.Inhabits a ↔ e.Inhabits b) items items')
    (elements : List Value) :
    (∀ part ∈ items.zip elements, part.2.Inhabits part.1) ↔
      ∀ part ∈ items'.zip elements, part.2.Inhabits part.1 := by
  induction h generalizing elements with
  | nil => simp
  | cons hab _ ih =>
    cases elements with
    | nil => simp
    | cons e rest =>
      rw [List.zip_cons_cons, List.zip_cons_cons, List.forall_mem_cons, List.forall_mem_cons]
      exact and_congr (hab e) (ih rest)

theorem eachAmong_iff {members members' : List ValueType} :
    eachAmong members members' = true ↔ ∀ a ∈ members, ∃ b ∈ members', same a b = true := by
  induction members with
  | nil => simp [eachAmong]
  | cons a rest ih => rw [eachAmong, Bool.and_eq_true, ih, List.any_eq_true, List.forall_mem_cons]

theorem amongst_iff {members : List ValueType} {b : ValueType} :
    amongst members b = true ↔ ∃ a ∈ members, same a b = true := by
  induction members with
  | nil => simp [amongst]
  | cons a rest ih => rw [amongst, Bool.or_eq_true, ih, List.exists_mem_cons_iff]

theorem sameConstant_self (c : Constant) (mark : Nat) : sameConstant c mark c mark = true := by
  cases c with
  | float x => cases x <;> simp [sameConstant, Double.equals, Double.sameScaled]
  | _ => simp [sameConstant]

theorem sameItems_iff {items items' : List ValueType} :
    sameItems items items' = true ↔ List.Forall₂ (fun a b => same a b = true) items items' := by
  induction items generalizing items' with
  | nil => cases items' <;> simp [sameItems]
  | cons a rest ih =>
    cases items' with
    | nil => simp [sameItems]
    | cons b bs => rw [sameItems, Bool.and_eq_true, ih, List.forall₂_cons]

theorem sameFields_self {fields : List (String × Bool × ValueType)}
    (h : ∀ f ∈ fields, same f.2.2 f.2.2 = true) : sameFields fields fields = true := by
  induction fields with
  | nil => rw [sameFields]
  | cons f rest ih =>
    obtain ⟨key, required, a⟩ := f
    obtain ⟨ha, hrest⟩ := List.forall_mem_cons.mp h
    rw [sameFields, ha, ih hrest]
    simp

theorem same_self (a : ValueType) : same a a = true := by
  induction a with
  | number => rw [same]
  | text => rw [same]
  | any => rw [same]
  | null joined => rw [same, BEq.rfl]
  | literal c mark =>
    rw [same]
    exact sameConstant_self c mark
  | tuple items ih =>
    rw [same, sameItems_iff, List.forall₂_same]
    exact ih
  | list item ih =>
    rw [same]
    exact ih
  | dict key value ihkey ihvalue => rw [same, ihkey, ihvalue, Bool.true_and]
  | union members ih =>
    rw [same, Bool.and_eq_true, eachAmong_iff, List.all_eq_true]
    exact ⟨fun a ha => ⟨a, ha, ih a ha⟩, fun a ha => amongst_iff.mpr ⟨a, ha, ih a ha⟩⟩
  | typedDict name mark fields ih => simp [same, sameFields_self ih]

theorem sameItems_self (items : List ValueType) : sameItems items items = true :=
  sameItems_iff.mpr (List.forall₂_same.mpr fun a _ => same_self a)

theorem inhabits_iff_of_same {a b : ValueType} (h : same a b = true) (v : Value) :
    v.Inhabits a ↔ v.Inhabits b := by
  induction a generalizing b v with
  | number => cases b <;> simp [same] at h ⊢
  | text => cases b <;> simp [same] at h ⊢
  | any => cases b <;> simp [same] at h ⊢
  | null joined =>
    cases b with
    | null joined' => rw [Inhabits, Inhabits]
    | _ => simp [same] at h
  | literal c mark =>
    cases b with
    | literal c' mark' =>
      rw [same] at h
      rw [Inhabits, Inhabits]
      exact strictlyEquals_iff_of_sameConstant h v
    | _ => simp [same] at h
  | tuple items ih =>
    cases b with
    | tuple items' =>
      rw [same] at h
      have hparts := forall₂_of_sameItems h fun a ha b hab => fun v => ih a ha hab v
      rw [Inhabits, Inhabits, hparts.length_eq]
      refine exists_congr fun elements => and_congr_right fun _ => and_congr_right fun _ => ?_
      exact forall_mem_zip_congr hparts elements
    | _ => simp [same] at h
  | list item ih =>
    cases b with
    | list item' =>
      rw [same] at h
      rw [Inhabits, Inhabits]
      exact exists_congr fun elements => and_congr_right fun _ => forall₂_congr fun e _ => ih h e
    | _ => simp [same] at h
  | dict key value ihkey ihvalue =>
    cases b with
    | dict key' value' =>
      rw [same, Bool.and_eq_true] at h
      rw [Inhabits, Inhabits]
      refine exists_congr fun entries => and_congr_right fun _ => forall₂_congr fun e _ => ?_
      exact and_congr (ihkey h.1 e.1) (ihvalue h.2 e.2)
    | _ => simp [same] at h
  | union members ih =>
    cases b with
    | union members' =>
      rw [same, Bool.and_eq_true, eachAmong_iff, List.all_eq_true] at h
      rw [inhabits_union, inhabits_union]
      constructor
      · rintro ⟨a, ha, hv⟩
        obtain ⟨b, hb, hab⟩ := h.1 a ha
        exact ⟨b, hb, (ih a ha hab v).mp hv⟩
      · rintro ⟨b, hb, hv⟩
        obtain ⟨a, ha, hab⟩ := amongst_iff.mp (h.2 b hb)
        exact ⟨a, ha, (ih a ha hab v).mpr hv⟩
    | _ => simp [same] at h
  | typedDict name mark fields ih =>
    cases b with
    | typedDict name' mark' fields' =>
      simp only [same, Bool.and_eq_true] at h
      have hfields := forall₂_of_sameFields (R := fun a b => ∀ w : Value, w.Inhabits a ↔ w.Inhabits b)
        h.2 fun f hf b hfb w => ih f hf hfb w
      rw [Inhabits, Inhabits]
      refine and_congr_right fun _ => ?_
      clear h ih
      induction hfields with
      | nil => simp
      | cons hfg _ ih =>
        obtain ⟨hkey, hrequired, hcontent⟩ := hfg
        rw [List.forall_mem_cons, List.forall_mem_cons, hkey, hrequired, ih]
        exact and_congr_left fun _ => and_congr_right fun _ => forall₂_congr fun w _ => hcontent w
    | _ => simp [same] at h

theorem exists_inhabits_iff_of_sameItems {parts parts' : List ValueType}
    (h : sameItems parts parts' = true) :
    (∃ p ∈ parts, v.Inhabits p) ↔ ∃ p ∈ parts', v.Inhabits p := by
  have hparts := forall₂_of_sameItems (R := fun a b => v.Inhabits a ↔ v.Inhabits b) h
    fun a _ b hab => inhabits_iff_of_same hab v
  clear h
  induction hparts with
  | nil => rfl
  | cons hab _ ih =>
    rw [List.exists_mem_cons_iff, List.exists_mem_cons_iff]
    exact or_congr hab ih

/-! ## Unions -/

theorem inhabits_alternatives {t : ValueType} :
    (∃ a ∈ alternatives t, v.Inhabits a) ↔ v.Inhabits t := by
  cases t with
  | union members =>
    rw [alternatives, inhabits_union]
  | null joined => simp [alternatives, Inhabits]
  | _ => simp [alternatives]

theorem inhabits_dedupe {kept rest : List ValueType} :
    (∃ a ∈ dedupe kept rest, v.Inhabits a) ↔
      (∃ a ∈ kept, v.Inhabits a) ∨ ∃ a ∈ rest, v.Inhabits a := by
  induction rest generalizing kept with
  | nil => simp [dedupe]
  | cons a rest ih =>
    rw [dedupe, ih, List.exists_mem_cons_iff, ← or_assoc]
    refine or_congr ?_ Iff.rfl
    split
    · rename_i h
      obtain ⟨b, hb, hba⟩ := amongst_iff.mp h
      have hdropped : v.Inhabits a → ∃ a ∈ kept, v.Inhabits a := by
        intro hv
        exact ⟨b, hb, (inhabits_iff_of_same hba v).mpr hv⟩
      exact (or_iff_left_of_imp hdropped).symm
    · simp only [List.mem_append, List.mem_singleton, or_and_right, exists_or, exists_eq_left]

/-- Opening nested unions and dropping repeated members changes no values. -/
theorem inhabits_unionOf {members : List ValueType} :
    v.Inhabits (unionOf members) ↔ ∃ a ∈ members, v.Inhabits a := by
  have hdistinct : (∃ a ∈ dedupe [] (members.flatMap alternatives), v.Inhabits a) ↔
      ∃ a ∈ members, v.Inhabits a := by
    rw [inhabits_dedupe]
    simp only [List.not_mem_nil, false_and, exists_false, false_or, List.mem_flatMap]
    constructor
    · rintro ⟨b, ⟨a, ha, hb⟩, hv⟩
      exact ⟨a, ha, inhabits_alternatives.mp ⟨b, hb, hv⟩⟩
    · rintro ⟨a, ha, hv⟩
      obtain ⟨b, hb, hv⟩ := inhabits_alternatives.mpr hv
      exact ⟨b, ⟨a, ha, hb⟩, hv⟩
  rw [← hdistinct, unionOf]
  split
  · rename_i a h
    simp [h]
  · exact inhabits_union

end ValueType

end GeoSchema
