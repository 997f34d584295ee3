import GeoSchema.Double.Basic

/-!
# Rounding to floating-point numbers

`Double.ofRatio` and `Double.ofDecimal` give the nearest number with 53 bits, a tie going to the
even mantissa. Numbers below the normal range keep fewer bits, and numbers above it are infinite.
-/

namespace GeoSchema.Double

/-- The quotient, rounded to the nearest integer, a tie to the even one. -/
def roundDiv (num den : Nat) : Nat :=
  let q := num / den
  let r := num % den
  if 2 * r < den then q else if den < 2 * r then q + 1 else q + q % 2

/-- The greatest `k` with `base ^ k ≤ num / den`, from the logarithm of naturals, rounded down.
The difference of the two logarithms is right or one too large. -/
def floorLog (base : Nat) (log : Nat → Nat) (num den : Nat) : Int :=
  let k : Int := (log num : Int) - log den
  if den * Nat.pow base k.toNat ≤ num * Nat.pow base (-k).toNat then k else k - 1

/-- The least exponent of a mantissa: numbers below `2 ^ -1022` have no bits under `2 ^ -1074`. -/
def leastExponent : Int := -1074

def greatestExponent : Int := 971

def zero (negative : Bool) : Double := .finite negative 0 leastExponent

/-- The value `± mantissa · 2 ^ exponent`, where rounding may have brought the mantissa to
`2 ^ 53`. -/
def normalized (negative : Bool) (mantissa : Nat) (exponent : Int) : Double :=
  let (m, e) := if mantissa = Nat.pow 2 53 then (Nat.pow 2 52, exponent + 1) else (mantissa, exponent)
  if e ≤ greatestExponent then .finite negative m e else .infinite negative

/-- The number nearest to `± num / den`. -/
def ofRatio (negative : Bool) (num den : Nat) : Double :=
  if num = 0 then zero negative
  else
    let lowest := floorLog 2 Nat.log2 num den - 52
    let e := if lowest < leastExponent then leastExponent else lowest
    normalized negative (roundDiv (num * Nat.pow 2 (-e).toNat) (den * Nat.pow 2 e.toNat)) e

def log10 (n : Nat) : Nat := (Nat.toDigits 10 n).length - 1

/-- The number nearest to `± digits · 10 ^ exponent`. Far outside the range the power of ten is
not computed. -/
def ofDecimal (negative : Bool) (digits : Nat) (exponent : Int) : Double :=
  let leading := (log10 digits : Int) + exponent
  if digits = 0 ∨ leading < -400 then zero negative
  else if 400 < leading then .infinite negative
  else ofRatio negative (digits * Nat.pow 10 exponent.toNat) (Nat.pow 10 (-exponent).toNat)

/-! ## Literals -/

instance : OfScientific Double where
  ofScientific digits negativeExponent exponent :=
    ofDecimal false digits (if negativeExponent then -(exponent : Int) else exponent)

def neg : Double → Double
  | .nan => .nan
  | .infinite negative => .infinite !negative
  | .finite negative mantissa exponent => .finite (!negative) mantissa exponent

instance : Neg Double := ⟨neg⟩

end GeoSchema.Double
