import GeoSchema.Schema.Basic
import Mathlib.Algebra.Field.Rat
import Mathlib.Algebra.GroupWithZero.Basic
import Mathlib.Data.Int.Cast.Lemmas
import Mathlib.Tactic.NormNum
import Mathlib.Tactic.Ring

/-!
# Strict equality

Numbers are compared by what they stand for, exactly. `Constant.equals_iff` shows that the test of
a literal schema decides this.
-/

namespace GeoSchema

/-! ## What a number stands for -/

inductive Quantity where
  | finite (q : ℚ)
  | infinite (negative : Bool)
deriving DecidableEq

/-- What is not a number stands for nothing. -/
def Double.quantity? : Double → Option Quantity
  | .nan => none
  | .infinite negative => some (.infinite negative)
  | .finite negative mantissa exponent =>
    some (.finite (Double.signed negative mantissa * (2 : ℚ) ^ exponent))

/-- A truth value stands for no number. -/
def Value.quantity? : Value → Option Quantity
  | .int n => some (.finite n)
  | .float x => x.quantity?
  | _ => none

/-- The value is the constant, or a number that stands for the same. -/
def Constant.StrictlyEquals : Constant → Value → Prop
  | .null, v => v = .null
  | .bool b, v => v = .bool b
  | .text s, v => v = .text s
  | .int n, v => v.quantity? = some (.finite n)
  | .float x, v => ∃ q, x.quantity? = some q ∧ v.quantity? = some q

/-! ## The test decides it -/

namespace Double

theorem sameScaled_iff (a i b j : Int) :
    sameScaled a i b j = true ↔ (a : ℚ) * 2 ^ i = b * 2 ^ j := by
  -- Both sides are multiples of the lower power, which is not zero.
  have hi : (2 : ℚ) ^ i = 2 ^ (i - j).toNat * 2 ^ min i j := by
    rw [← zpow_natCast, ← zpow_add₀ two_ne_zero]
    congr 1
    omega
  have hj : (2 : ℚ) ^ j = 2 ^ (j - i).toNat * 2 ^ min i j := by
    rw [← zpow_natCast, ← zpow_add₀ two_ne_zero]
    congr 1
    omega
  have hne : (2 : ℚ) ^ min i j ≠ 0 := zpow_ne_zero _ two_ne_zero
  rw [hi, hj, ← mul_assoc, ← mul_assoc, mul_left_inj' hne, sameScaled, beq_iff_eq]
  norm_cast

theorem equalsInt_iff (x : Double) (n : Int) :
    x.equalsInt n = true ↔ x.quantity? = some (.finite n) := by
  cases x with
  | nan => simp [equalsInt, quantity?]
  | infinite negative => simp [equalsInt, quantity?]
  | finite negative mantissa exponent =>
    rw [equalsInt, sameScaled_iff, quantity?, zpow_zero, mul_one]
    simp

theorem equals_iff (x y : Double) :
    x.equals y = true ↔ ∃ q, x.quantity? = some q ∧ y.quantity? = some q := by
  cases x with
  | nan => simp [equals, quantity?]
  | infinite negative =>
    cases y with
    | infinite negative' =>
      simp only [equals, quantity?, beq_iff_eq, Option.some.injEq, exists_eq_left',
        Quantity.infinite.injEq]
      exact eq_comm
    | _ => simp [equals, quantity?]
  | finite negative mantissa exponent =>
    cases y with
    | finite negative' mantissa' exponent' =>
      simp only [equals, sameScaled_iff, quantity?, Option.some.injEq, exists_eq_left',
        Quantity.finite.injEq]
      exact eq_comm
    | _ => simp [equals, quantity?]

end Double

theorem Constant.equals_iff (c : Constant) (v : Value) :
    c.equals v = true ↔ c.StrictlyEquals v := by
  cases c with
  | null => cases v <;> simp [equals, StrictlyEquals]
  | bool b =>
    cases v with
    | bool b' =>
      rw [equals, StrictlyEquals, beq_iff_eq, Value.bool.injEq]
      exact eq_comm
    | _ => simp [equals, StrictlyEquals]
  | text s =>
    cases v with
    | text s' =>
      rw [equals, StrictlyEquals, beq_iff_eq, Value.text.injEq]
      exact eq_comm
    | _ => simp [equals, StrictlyEquals]
  | int n =>
    cases v with
    | int n' =>
      rw [equals, StrictlyEquals, beq_iff_eq, Value.quantity?, Option.some.injEq,
        Quantity.finite.injEq, Int.cast_inj]
      exact eq_comm
    | float x => rw [equals, StrictlyEquals, Value.quantity?, Double.equalsInt_iff]
    | _ => simp [equals, StrictlyEquals, Value.quantity?]
  | float x =>
    cases v with
    | int n => simp [equals, StrictlyEquals, Value.quantity?, Double.equalsInt_iff]
    | float y => rw [equals, StrictlyEquals, Value.quantity?, Double.equals_iff]
    | _ => simp [equals, StrictlyEquals, Value.quantity?]

end GeoSchema
