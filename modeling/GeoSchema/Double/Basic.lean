/-!
# Floating-point numbers

A finite number is kept exactly, as `± mantissa · 2 ^ exponent`. Comparison is exact as well, also
between a floating-point number and an integer of any size.
-/

namespace GeoSchema

inductive Double where
  | nan
  | infinite (negative : Bool)
  | finite (negative : Bool) (mantissa : Nat) (exponent : Int)
deriving DecidableEq, Repr

namespace Double

def signed (negative : Bool) (mantissa : Nat) : Int :=
  if negative then -(mantissa : Int) else mantissa

/-- Whether `a · 2 ^ i = b · 2 ^ j`. -/
def sameScaled (a i b j : Int) : Bool :=
  a * Nat.pow 2 (i - j).toNat == b * Nat.pow 2 (j - i).toNat

def equalsInt (x : Double) (n : Int) : Bool :=
  match x with
  | .finite s m e => sameScaled (signed s m) e n 0
  | _ => false

/-- Equality of values: the two zeros are equal, and what is not a number equals nothing. -/
def equals : Double → Double → Bool
  | .finite s m e, .finite s' m' e' => sameScaled (signed s m) e (signed s' m') e'
  | .infinite s, .infinite s' => s == s'
  | _, _ => false

end Double

end GeoSchema
