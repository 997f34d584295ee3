import GeoSchema.Double.Basic

/-!
# Decoded documents

A value is what a decoder hands over: scalars, the two kinds of sequence, and dictionaries with
keys of any kind. The entries of a dictionary stand in the order of arrival, and no key comes twice.
Texts hold valid characters only, integers may be of any size, and values nest to any depth.
-/

namespace GeoSchema

inductive Value where
  | null
  | bool (b : Bool)
  | int (n : Int)
  | float (x : Double)
  | text (s : String)
  | bytes (data : List UInt8)
  | list (items : List Value)
  | tuple (items : List Value)
  | dict (entries : List (Value × Value))
deriving Inhabited, Repr

namespace Value

/-- A truth value is no number. -/
def isNumber : Value → Bool
  | .int _ | .float _ => true
  | _ => false

/-- The elements of a sequence. Text and bytes are no sequences. -/
def elements? : Value → Option (List Value)
  | .list items | .tuple items => some items
  | _ => none

def entries? : Value → Option (List (Value × Value))
  | .dict entries => some entries
  | _ => none

/-- The entries under their keys, if every key is a text. -/
def named? : List (Value × Value) → Option (List (String × Value))
  | [] => some []
  | (.text key, v) :: rest => (named? rest).map ((key, v) :: ·)
  | _ => none

/-- The members of an object, which is a dictionary with text keys only. -/
def members? : Value → Option (List (String × Value))
  | .dict entries => named? entries
  | _ => none

end Value

end GeoSchema
