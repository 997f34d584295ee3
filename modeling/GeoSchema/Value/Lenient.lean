import GeoSchema.Text.Numeral
import GeoSchema.Value.Basic

/-!
# Lenient reading of values

A flag, an integer or a text may be given as a value of another kind that plainly stands for it.
Bytes stand for the text that they encode. The loaders of the programs read settings so.
-/

namespace GeoSchema

inductive Misfit where
  | unclearFlag
  | noFlag
  | unclearInteger
  | oversized
  | fraction
  | notFinite
  | noInteger
  | belowOne
  | noText
  | badEncoding
deriving DecidableEq, Repr

def Misfit.code : Misfit → String
  | .unclearFlag => "bool_parsing"
  | .noFlag => "bool_type"
  | .unclearInteger => "int_parsing"
  | .oversized => "int_parsing_size"
  | .fraction => "int_from_float"
  | .notFinite => "finite_number"
  | .noInteger => "int_type"
  | .belowOne => "greater_than_equal"
  | .noText => "string_type"
  | .badEncoding => "string_unicode"

namespace Value

/-! ## Text -/

def textOfBytes? (data : List UInt8) : Option String := String.fromUTF8? ⟨data.toArray⟩

def toText : Value → Except Misfit String
  | .text s => .ok s
  | .bytes data =>
    match textOfBytes? data with
    | some s => .ok s
    | none => .error .badEncoding
  | _ => .error .noText

/-! ## Integers -/

/-- The integer that a number without a fraction equals, if it is less than `2 ^ 63` in size. -/
def integerOfDouble : Double → Except Misfit Int
  | .finite negative mantissa exponent =>
    let whole := mantissa * Nat.pow 2 exponent.toNat
    let unit := Nat.pow 2 (-exponent).toNat
    if whole % unit != 0 then .error .fraction
    else if whole / unit < Nat.pow 2 63 then .ok (Double.signed negative (whole / unit))
    else .error .oversized
  | _ => .error .notFinite

def integerOfText (s : String) : Except Misfit Int :=
  if Text.Numeral.oversized s.toList then .error .oversized
  else
    match Text.Numeral.integer? s.toList with
    | some n => .ok n
    | none => .error .unclearInteger

/-- A truth value counts as 1 or 0. -/
def toInteger : Value → Except Misfit Int
  | .int n => .ok n
  | .bool b => .ok (if b then 1 else 0)
  | .float x => integerOfDouble x
  | .text s => integerOfText s
  | .bytes data =>
    match textOfBytes? data with
    | some s => integerOfText s
    | none => .error .unclearInteger
  | _ => .error .noInteger

/-! ## Flags -/

def offWords : List String := ["0", "off", "f", "false", "n", "no"]
def onWords : List String := ["1", "on", "t", "true", "y", "yes"]

/-- Case does not matter, blanks do. -/
def flagOfText (s : String) : Except Misfit Bool :=
  if offWords.contains s.toLower then .ok false
  else if onWords.contains s.toLower then .ok true
  else .error .unclearFlag

def flagOfInteger (n : Int) : Except Misfit Bool :=
  if n = 0 then .ok false else if n = 1 then .ok true else .error .unclearFlag

def isSmall (n : Int) : Bool := -(Nat.pow 2 63 : Nat) ≤ n && n < (Nat.pow 2 63 : Nat)

/-- The numbers 0 and 1 count as flags. A fraction, or a number far from them, is nothing like a
flag. -/
def toFlag : Value → Except Misfit Bool
  | .bool b => .ok b
  | .int n => if isSmall n then flagOfInteger n else .error .noFlag
  | .float x =>
    match integerOfDouble x with
    | .ok n => flagOfInteger n
    | .error _ => .error .noFlag
  | .text s => flagOfText s
  | .bytes data =>
    match textOfBytes? data with
    | some s => flagOfText s
    | none => .error .unclearFlag
  | _ => .error .noFlag

end Value

end GeoSchema
