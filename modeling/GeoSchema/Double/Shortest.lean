import GeoSchema.Double.Rounding

/-!
# The text of a floating-point number

A finite number is written with the fewest digits that read back to it; among those, the nearest,
and of two equally near the even one.
-/

namespace GeoSchema.Double

structure Decimal where
  digits : Nat
  exponent : Int
deriving DecidableEq, Repr

/-- The multiples of `10 ^ exponent` that could read back to `num / den`: the nearest one first,
then the neighbour on the other side. -/
def neighbours (num den : Nat) (exponent : Int) : List Decimal :=
  let n := num * Nat.pow 10 (-exponent).toNat
  let d := den * Nat.pow 10 exponent.toNat
  [⟨roundDiv n d, exponent⟩, ⟨n / d, exponent⟩, ⟨n / d + 1, exponent⟩]

def exact (mantissa : Nat) (exponent : Int) : Decimal :=
  if 0 ≤ exponent then ⟨mantissa * Nat.pow 2 exponent.toNat, 0⟩
  else ⟨mantissa * Nat.pow 5 (-exponent).toNat, exponent⟩

/-- The shortest decimal that reads back to `mantissa · 2 ^ exponent`, which is not zero. Up to
seventeen digits are tried; the exact value reads back in any case. -/
def shortest (mantissa : Nat) (exponent : Int) : Decimal :=
  let num := mantissa * Nat.pow 2 exponent.toNat
  let den := Nat.pow 2 (-exponent).toNat
  let leading := floorLog 10 log10 num den
  let readsBack (c : Decimal) := ofDecimal false c.digits c.exponent = .finite false mantissa exponent
  let onGrid (count : Nat) := neighbours num den (leading - count)
  match (List.range 17).findSome? fun count => (onGrid count).find? (readsBack ·) with
  | some c => c
  | none => exact mantissa exponent

/-- Lays out digits of which the first stands for units of `10 ^ leading`: positionally from
`10 ^ -4` up to `10 ^ 16`, and always with a point; otherwise with a signed exponent of at least
two digits. -/
def layOut (digits : List Char) (leading : Int) : List Char :=
  if 0 ≤ leading ∧ leading < 16 then
    let whole := leading.toNat + 1
    let fraction := digits.drop whole
    (digits.take whole).rightpad whole '0' ++ '.' :: (if fraction.isEmpty then ['0'] else fraction)
  else if -4 ≤ leading ∧ leading < 0 then
    '0' :: '.' :: List.replicate (-leading - 1).toNat '0' ++ digits
  else
    let point := if digits.length ≤ 1 then [] else ['.']
    let sign := if leading < 0 then '-' else '+'
    digits.take 1 ++ point ++ digits.drop 1 ++
      'e' :: sign :: (Nat.toDigits 10 leading.natAbs).leftpad 2 '0'

/-- The digits without trailing zeros, and the exponent of the first one. -/
def renderDecimal (c : Decimal) : List Char :=
  let digits := Nat.toDigits 10 c.digits
  layOut (digits.reverse.dropWhile (· == '0')).reverse (c.exponent + (digits.length - 1 : Nat))

def render : Double → String
  | .nan => "nan"
  | .infinite negative => if negative then "-inf" else "inf"
  | .finite negative m e =>
    let magnitude := if m = 0 then ['0', '.', '0'] else renderDecimal (shortest m e)
    String.ofList (if negative then '-' :: magnitude else magnitude)

end GeoSchema.Double
