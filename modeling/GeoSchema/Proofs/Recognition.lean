import GeoSchema.Grammar
import GeoSchema.Proofs.Acceptance

/-!
# What the shorthands of the grammar recognize

A schema recognizes a property of values if it accepts the values with the property and no others.
Each shorthand of the grammar recognizes what it says, given what its parts recognize.
-/

namespace GeoSchema

namespace Value

def IsNumber (v : Value) : Prop := (∃ n, v = .int n) ∨ ∃ x, v = .float x

def IsText (v : Value) : Prop := ∃ s, v = .text s

def IsSequenceOf (P : Value → Prop) (v : Value) : Prop :=
  ∃ elements, (v = .list elements ∨ v = .tuple elements) ∧ ∀ e ∈ elements, P e

def IsNonEmptySequenceOf (P : Value → Prop) (v : Value) : Prop :=
  ∃ elements, (v = .list elements ∨ v = .tuple elements) ∧ elements ≠ [] ∧ ∀ e ∈ elements, P e

def IsObject (v : Value) : Prop := ∃ members, v = .object members

/-- Values that are no objects hold nothing. -/
def member? (v : Value) (name : String) : Option Value :=
  v.members?.bind fun members => members.lookup name

theorem members?_object (members : List (String × Value)) :
    (object members).members? = some members :=
  members?_eq_some_iff.mpr rfl

theorem member?_object (members : List (String × Value)) (name : String) :
    (object members).member? name = members.lookup name := by
  rw [member?, members?_object]
  rfl

theorem object_injective {members members' : List (String × Value)}
    (h : object members = object members') : members = members' := by
  have hmembers := members?_object members
  rw [h, members?_object, Option.some.injEq] at hmembers
  exact hmembers.symm

end Value

namespace Schema

def Recognizes (s : Schema) (P : Value → Prop) : Prop := ∀ v, s.accepts v = true ↔ P v

end Schema

namespace Grammar

open Schema Value

variable {P Q : Value → Prop} {item : Schema}

/-! ## Leaves -/

theorem recognizes_number : number.Recognizes IsNumber := by
  intro v
  unfold number
  rw [accepts_primitive]
  cases v <;> simp [Primitive.accepts, isNumber, IsNumber]

theorem recognizes_text : text.Recognizes IsText := by
  intro v
  unfold text
  rw [accepts_primitive]
  cases v <;> simp [Primitive.accepts, IsText]

theorem recognizes_null : null.Recognizes (· = .null) := by
  intro v
  unfold null
  rw [accepts_primitive]
  cases v <;> simp [Primitive.accepts]

theorem accepts_any (v : Value) : any.accepts v := by
  unfold any
  rw [accepts_primitive]
  rfl

theorem recognizes_tag (type : String) : (tag type).Recognizes (· = .text type) := by
  intro v
  unfold tag
  rw [accepts_literal, Constant.StrictlyEquals]

/-! ## Sequences -/

theorem recognizes_array (label : Option String) (h : item.Recognizes P) :
    (Schema.array false item label).Recognizes (IsSequenceOf P) := by
  intro v
  rw [accepts_array]
  refine exists_congr fun elements => and_congr elements?_eq_some_iff ?_
  simp only [Bool.false_eq_true, false_implies, true_and]
  exact forall₂_congr fun e _ => h e

theorem recognizes_nonEmptyArray (h : item.Recognizes P) :
    (nonEmptyArray item).Recognizes (IsNonEmptySequenceOf P) := by
  intro v
  unfold nonEmptyArray
  rw [accepts_array]
  refine exists_congr fun elements => and_congr elements?_eq_some_iff ?_
  simp only [true_implies]
  exact and_congr_right fun _ => forall₂_congr fun e _ => h e

/-! ## Unions -/

theorem recognizes_union_pair (label : Option String) {a b : Schema} (ha : a.Recognizes P)
    (hb : b.Recognizes Q) : (Schema.union [a, b] label).Recognizes fun v => P v ∨ Q v := by
  intro v
  rw [accepts_union]
  simp only [List.mem_cons, List.not_mem_nil, or_false, exists_eq_or_imp, exists_eq_left]
  exact or_congr (ha v) (hb v)

/-! ## Objects -/

theorem recognizes_required (fields : List (String × Schema)) :
    (required fields).Recognizes fun v => ∃ members, v = .object members ∧
      ∀ f ∈ fields, ∃ w, members.lookup f.1 = some w ∧ f.2.accepts w := by
  intro v
  unfold required
  rw [accepts_object]
  refine exists_congr fun members => and_congr members?_eq_some_iff (forall₂_congr fun f _ => ?_)
  cases members.lookup f.1 <;> simp

theorem recognizes_optional (fields : List (String × Schema)) :
    (Grammar.optional fields).Recognizes fun v => ∃ members, v = .object members ∧
      ∀ f ∈ fields, ∀ w, members.lookup f.1 = some w → f.2.accepts w := by
  intro v
  unfold Grammar.optional
  rw [accepts_object]
  refine exists_congr fun members => and_congr members?_eq_some_iff (forall₂_congr fun f _ => ?_)
  simp

theorem recognizes_required_optional (fields free : List (String × Schema)) (label : Option String) :
    (Schema.intersection [required fields, Grammar.optional free] label).Recognizes fun v =>
      ∃ members, v = .object members ∧
        (∀ f ∈ fields, ∃ w, members.lookup f.1 = some w ∧ f.2.accepts w) ∧
        ∀ f ∈ free, ∀ w, members.lookup f.1 = some w → f.2.accepts w := by
  intro v
  rw [accepts_intersection]
  simp only [List.forall_mem_cons, List.not_mem_nil, false_implies, implies_true, and_true]
  rw [recognizes_required fields v, recognizes_optional free v]
  constructor
  · rintro ⟨⟨members, rfl, hfields⟩, members', hv, hfree⟩
    obtain rfl := object_injective hv
    exact ⟨members, rfl, hfields, hfree⟩
  · rintro ⟨members, rfl, hfields, hfree⟩
    exact ⟨⟨members, rfl, hfields⟩, members, rfl, hfree⟩

theorem recognizes_tagged (type : String) (fields free : List (String × Schema)) (label : Option String) :
    (Schema.intersection [required (("type", tag type) :: fields), Grammar.optional free]
      label).Recognizes fun v => ∃ members, v = .object members ∧
        members.lookup "type" = some (.text type) ∧
        (∀ f ∈ fields, ∃ w, members.lookup f.1 = some w ∧ f.2.accepts w) ∧
        ∀ f ∈ free, ∀ w, members.lookup f.1 = some w → f.2.accepts w := by
  intro v
  rw [recognizes_required_optional _ _ _ v]
  refine exists_congr fun members => and_congr_right fun _ => ?_
  rw [List.forall_mem_cons, and_assoc]
  refine and_congr_left fun _ => ?_
  constructor
  · rintro ⟨t, htype, ht⟩
    rw [(recognizes_tag type t).mp ht] at htype
    exact htype
  · intro htype
    exact ⟨_, htype, (recognizes_tag type _).mpr rfl⟩

end Grammar

end GeoSchema
