import GeoSchema.Proofs.Acceptance

/-!
# Equality of literals

What a literal schema accepts is told by what constants and values mean: a literal accepts the values that mean
the same as its constant. Not everything has a meaning, and nothing has two. So strict equality is a partial
equivalence, which fails to be reflexive only at the constant that is not a number.
-/

namespace GeoSchema

/-! ## Meanings -/

inductive Meaning where
  | null
  | bool (b : Bool)
  | text (s : String)
  | number (q : Quantity)
deriving DecidableEq

namespace Value

/-- What is not a number, or no constant, means nothing. -/
def meaning? : Value → Option Meaning
  | .null => some .null
  | .bool b => some (.bool b)
  | .text s => some (.text s)
  | v => v.quantity?.map .number

theorem meaning?_eq_null_iff {v : Value} : v.meaning? = some .null ↔ v = .null := by
  cases v <;> simp [meaning?]

theorem meaning?_eq_bool_iff {v : Value} {b : Bool} : v.meaning? = some (.bool b) ↔ v = .bool b := by
  cases v <;> simp [meaning?]

theorem meaning?_eq_text_iff {v : Value} {s : String} : v.meaning? = some (.text s) ↔ v = .text s := by
  cases v <;> simp [meaning?]

theorem meaning?_eq_number_iff {v : Value} {q : Quantity} :
    v.meaning? = some (.number q) ↔ v.quantity? = some q := by
  cases v <;> simp [meaning?, quantity?]

theorem exists_meaning_iff {v w : Value} {m : Meaning} (h : w.meaning? = some m) :
    (∃ m', w.meaning? = some m' ∧ v.meaning? = some m') ↔ v.meaning? = some m := by
  simp only [h, Option.some.injEq, exists_eq_left']

theorem isNumber_of_quantity {v : Value} {q : Quantity} (h : v.quantity? = some q) : v.isNumber = true := by
  cases v with
  | int n => rfl
  | float x => rfl
  | _ => cases h

end Value

namespace Constant

variable {c d : Constant} {v : Value}

theorem strictlyEquals_iff : c.StrictlyEquals v ↔ ∃ m, c.toValue.meaning? = some m ∧ v.meaning? = some m := by
  cases c with
  | null => rw [StrictlyEquals, toValue, Value.exists_meaning_iff rfl, Value.meaning?_eq_null_iff]
  | bool b => rw [StrictlyEquals, toValue, Value.exists_meaning_iff rfl, Value.meaning?_eq_bool_iff]
  | text s => rw [StrictlyEquals, toValue, Value.exists_meaning_iff rfl, Value.meaning?_eq_text_iff]
  | int n => rw [StrictlyEquals, toValue, Value.exists_meaning_iff rfl, Value.meaning?_eq_number_iff]
  | float x =>
    rw [StrictlyEquals, toValue]
    cases hx : x.quantity? with
    | none => simp [Value.meaning?, Value.quantity?, hx]
    | some q =>
      have hmeaning : (Value.float x).meaning? = some (.number q) := Value.meaning?_eq_number_iff.mpr hx
      rw [Value.exists_meaning_iff hmeaning, Value.meaning?_eq_number_iff]
      simp

inductive SameKind : Constant → Value → Prop where
  | null : SameKind .null .null
  | bool (b : Bool) : SameKind (.bool b) (.bool b)
  | text (s t : String) : SameKind (.text s) (.text t)
  | number {c : Constant} {v : Value} (hc : c.toValue.isNumber = true) (hv : v.isNumber = true) : SameKind c v

theorem sameKind_of_strictlyEquals (h : c.StrictlyEquals v) : c.SameKind v := by
  cases c with
  | null =>
    rw [StrictlyEquals] at h
    exact h ▸ .null
  | bool b =>
    rw [StrictlyEquals] at h
    exact h ▸ .bool b
  | text s =>
    rw [StrictlyEquals] at h
    exact h ▸ .text s s
  | int n => exact .number rfl (Value.isNumber_of_quantity h)
  | float x =>
    obtain ⟨q, -, hq⟩ := h
    exact .number rfl (Value.isNumber_of_quantity hq)

theorem meaning?_toValue_eq_none_iff : c.toValue.meaning? = none ↔ c = .float .nan := by
  cases c with
  | float x => cases x <;> simp [toValue, Value.meaning?, Value.quantity?, Double.quantity?]
  | _ => simp [toValue, Value.meaning?, Value.quantity?]

end Constant

/-! ## Literals -/

namespace Schema

variable {c d : Constant} {label label' : Option String} {v : Value}

theorem accepts_literal_iff :
    (literal c label).accepts v ↔ ∃ m, c.toValue.meaning? = some m ∧ v.meaning? = some m :=
  accepts_literal.trans Constant.strictlyEquals_iff

theorem accepts_literal_comm :
    (literal c label).accepts d.toValue ↔ (literal d label').accepts c.toValue := by
  rw [accepts_literal_iff, accepts_literal_iff]
  exact exists_congr fun m => and_comm

theorem accepts_literal_trans (h : (literal c label).accepts d.toValue) :
    (literal c label).accepts v ↔ (literal d label').accepts v := by
  obtain ⟨m, hc, hd⟩ := accepts_literal_iff.mp h
  rw [accepts_literal_iff, accepts_literal_iff, hc, hd]

theorem accepts_literal_self_iff : (literal c label).accepts c.toValue ↔ c ≠ .float .nan := by
  rw [accepts_literal_iff, Ne, ← Constant.meaning?_toValue_eq_none_iff]
  simp only [and_self]
  exact Option.ne_none_iff_exists'.symm

theorem accepts_literal_int_iff {n : Int} {negative : Bool} {mantissa : Nat} {exponent : Int} :
    (literal (.int n) label).accepts (.float (.finite negative mantissa exponent)) ↔
      (Double.signed negative mantissa : ℚ) * 2 ^ exponent = n := by
  rw [accepts_literal, Constant.StrictlyEquals, Value.quantity?, Double.quantity?, Option.some.injEq,
    Quantity.finite.injEq]

theorem accepts_literal_infinite_iff {negative : Bool} :
    (literal (.float (.infinite negative)) label).accepts v ↔ v = .float (.infinite negative) := by
  rw [accepts_literal, Constant.StrictlyEquals, Double.quantity?]
  simp only [Option.some.injEq, exists_eq_left']
  cases v with
  | float x => cases x <;> simp [Value.quantity?, Double.quantity?]
  | _ => simp [Value.quantity?]

/-- A literal accepts what means the same as its constant, and nothing of another kind. -/
theorem literals_partial_equivalence :
    (∀ c label v, (literal c label).accepts v → c.SameKind v) ∧
    (∀ c d label label', (literal c label).accepts d.toValue ↔ (literal d label').accepts c.toValue) ∧
    (∀ c d label label', (literal c label).accepts d.toValue →
      ∀ v, (literal c label).accepts v ↔ (literal d label').accepts v) ∧
    (∀ c label, (literal c label).accepts c.toValue ↔ c ≠ .float .nan) ∧
    (∀ label v, ¬ (literal (.float .nan) label).accepts v) ∧
    (∀ (n : Int) label negative mantissa exponent,
      (literal (.int n) label).accepts (.float (.finite negative mantissa exponent)) ↔
        (Double.signed negative mantissa : ℚ) * 2 ^ exponent = n) ∧
    (∀ label negative exponent, (literal (.int 0) label).accepts (.float (.finite negative 0 exponent))) ∧
    ∀ label negative v, (literal (.float (.infinite negative)) label).accepts v ↔
      v = .float (.infinite negative) := by
  refine ⟨?_, ?_, ?_, ?_, ?_, ?_, ?_, ?_⟩
  · intro c label v h
    exact Constant.sameKind_of_strictlyEquals (accepts_literal.mp h)
  · intro c d label label'
    exact accepts_literal_comm
  · intro c d label label' h v
    exact accepts_literal_trans h
  · intro c label
    exact accepts_literal_self_iff
  · intro label v h
    obtain ⟨m, hm, -⟩ := accepts_literal_iff.mp h
    cases hm
  · intro n label negative mantissa exponent
    exact accepts_literal_int_iff
  · intro label negative exponent
    rw [accepts_literal_int_iff]
    cases negative <;> simp [Double.signed]
  · intro label negative v
    exact accepts_literal_infinite_iff

/-- One more than `2 ^ 53` is not rounded to it. -/
example :
    (literal (.int (2 ^ 53 + 1)) none).accepts (.float (.finite false (2 ^ 53) 0)) = false ∧
      (literal (.int (2 ^ 53)) none).accepts (.float (.finite false 1 53)) = true := by decide

end Schema

end GeoSchema
