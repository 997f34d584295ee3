import GeoSchema.Value.Text

/-!
# Schemas

A schema describes a set of values. Unions are ordered, and intersections ask for all their
members. A schema may carry a label; otherwise its name is made from its parts.
-/

namespace GeoSchema

inductive Primitive where
  | number
  | text
  | null
  | any
deriving DecidableEq, Repr

inductive Constant where
  | null
  | bool (b : Bool)
  | int (n : Int)
  | float (x : Double)
  | text (s : String)
deriving DecidableEq, Repr

/-- The fields of an object are all required or all optional; keys that it does not declare are
free. -/
inductive Schema where
  | primitive (p : Primitive)
  | literal (c : Constant) (label : Option String)
  | tuple (items : List Schema) (label : Option String)
  | array (nonEmpty : Bool) (item : Schema) (label : Option String)
  | dictionary (key value : Schema) (label : Option String)
  | object (required : Bool) (fields : List (String × Schema)) (label : Option String)
  | union (alternatives : List Schema) (label : Option String)
  | intersection (members : List Schema) (label : Option String)
deriving Inhabited

/-! ## Constants and primitives -/

namespace Constant

/-- Strict equality: truth values, texts and `null` equal only their own kind, and numbers are
compared by exact value. -/
def equals : Constant → Value → Bool
  | .null, .null => true
  | .bool b, .bool b' => b == b'
  | .text s, .text s' => s == s'
  | .int n, .int n' => n == n'
  | .int n, .float x => x.equalsInt n
  | .float x, .int n => x.equalsInt n
  | .float x, .float x' => x.equals x'
  | _, _ => false

def toValue : Constant → Value
  | .null => .null
  | .bool b => .bool b
  | .int n => .int n
  | .float x => .float x
  | .text s => .text s

/-- Text stands between double quotes, without escapes. -/
def name : Constant → String
  | .null => "null"
  | .bool b => if b then "true" else "false"
  | .text s => "\"" ++ s ++ "\""
  | c => c.toValue.render

end Constant

namespace Primitive

def name : Primitive → String
  | .number => "number"
  | .text => "string"
  | .null => "null"
  | .any => "any"

def accepts : Primitive → Value → Bool
  | .number, v => v.isNumber
  | .text, .text _ => true
  | .null, .null => true
  | .any, _ => true
  | _, _ => false

end Primitive

/-! ## Names -/

namespace Schema

/-- An empty label counts as none. -/
def labelled (label : Option String) (otherwise : String) : String :=
  match label with
  | some s => if s.isEmpty then otherwise else s
  | none => otherwise

def objectText (required : Bool) (fields : List String) : String :=
  let body := "\x7b " ++ ", ".intercalate fields ++ " \x7d"
  if required then body else "Partial<" ++ body ++ ">"

mutual

def name : Schema → String
  | .primitive p => p.name
  | .literal c label => labelled label c.name
  | .tuple items label => labelled label ("[" ++ ", ".intercalate (names items) ++ "]")
  | .array nonEmpty item label =>
    labelled label ((if nonEmpty then "NonEmptyArray<" else "Array<") ++ item.name ++ ">")
  | .dictionary key value label =>
    labelled label ("\x7b [K in " ++ key.name ++ "]: " ++ value.name ++ " \x7d")
  | .object required fields label => labelled label (objectText required (fieldNames fields))
  | .union alternatives label =>
    labelled label ("(" ++ " | ".intercalate (names alternatives) ++ ")")
  | .intersection members label =>
    labelled label ("(" ++ " & ".intercalate (names members) ++ ")")

def names : List Schema → List String
  | [] => []
  | s :: rest => s.name :: names rest

def fieldNames : List (String × Schema) → List String
  | [] => []
  | (key, s) :: rest => (key ++ ": " ++ s.name) :: fieldNames rest

end

def kindName : Schema → String
  | .primitive _ => "PrimitiveValidator"
  | .literal .. => "LiteralValidator"
  | .tuple .. => "TupleValidator"
  | .array .. => "ArrayValidator"
  | .dictionary .. => "DictionaryValidator"
  | .object .. => "InterfaceValidator"
  | .union .. => "UnionValidator"
  | .intersection .. => "IntersectionValidator"

def summary (s : Schema) : String := "<" ++ s.kindName ++ " " ++ s.name ++ ">"

end Schema

end GeoSchema
