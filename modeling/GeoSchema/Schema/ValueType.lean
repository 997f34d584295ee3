import GeoSchema.Schema.Properties
import GeoSchema.Text.Identifier

/-!
# The type of a schema's values

The type of a schema describes the values it accepts. Objects, and intersections of objects, give
a typed dictionary; any other intersection gives the type of its first member. A typed dictionary
bears the mark of its declaration: two declarations give two types, even where they read the same.
-/

namespace GeoSchema

/-- The `null` of a union is told apart from `null` by itself. -/
inductive ValueType where
  | number
  | text
  | null (joined : Bool)
  | any
  | literal (c : Constant) (mark : Nat)
  | tuple (items : List ValueType)
  | list (item : ValueType)
  | dict (key value : ValueType)
  | union (members : List ValueType)
  | typedDict (name : String) (mark : Nat) (fields : List (String × Bool × ValueType))
deriving Inhabited

namespace ValueType

/-! ## Equality -/

/-- Constants of one kind and one value. What is not a number equals only its own declaration. -/
def sameConstant (c : Constant) (mark : Nat) (c' : Constant) (mark' : Nat) : Bool :=
  match c, c' with
  | .float .nan, .float .nan => mark == mark'
  | .float x, .float x' => x.equals x'
  | c, c' => c == c'

mutual

/-- Unions are compared as sets, and typed dictionaries must come from one declaration. -/
def same : ValueType → ValueType → Bool
  | .number, .number => true
  | .text, .text => true
  | .null joined, .null joined' => joined == joined'
  | .any, .any => true
  | .literal c mark, .literal c' mark' => sameConstant c mark c' mark'
  | .tuple items, .tuple items' => sameItems items items'
  | .list item, .list item' => same item item'
  | .dict key value, .dict key' value' => same key key' && same value value'
  | .union members, .union members' =>
    eachAmong members members' && members'.all fun a => amongst members a
  | .typedDict name mark fields, .typedDict name' mark' fields' =>
    name == name' && mark == mark' && sameFields fields fields'
  | _, _ => false

def sameItems : List ValueType → List ValueType → Bool
  | [], [] => true
  | a :: as, b :: bs => same a b && sameItems as bs
  | _, _ => false

def sameFields : List (String × Bool × ValueType) → List (String × Bool × ValueType) → Bool
  | [], [] => true
  | (key, required, a) :: as, (key', required', b) :: bs =>
    key == key' && required == required' && same a b && sameFields as bs
  | _, _ => false

def eachAmong : List ValueType → List ValueType → Bool
  | [], _ => true
  | a :: as, bs => bs.any (fun b => same a b) && eachAmong as bs

def amongst : List ValueType → ValueType → Bool
  | [], _ => false
  | a :: as, b => same a b || amongst as b

end

/-! ## Unions -/

/-- The members of a union, or the type alone, as members of a union. -/
def alternatives : ValueType → List ValueType
  | .union members => members
  | .null _ => [.null true]
  | a => [a]

def dedupe : List ValueType → List ValueType → List ValueType
  | kept, [] => kept
  | kept, a :: rest => dedupe (if amongst kept a then kept else kept ++ [a]) rest

/-- Nested unions are opened, and a single member stands alone. -/
def unionOf (members : List ValueType) : ValueType :=
  match dedupe [] (members.flatMap alternatives) with
  | [a] => a
  | distinct => .union distinct

/-! ## Typed dictionaries -/

/-- The name of the schema, where it is an identifier. -/
def typedDictName (name : String) : String :=
  if Text.isIdentifier name then name else "Interface"

def typedDictOf (name : String) (mark : Nat) (fields : List (Field ValueType)) : ValueType :=
  .typedDict (typedDictName name) mark (fields.map fun f => (f.key, f.required, f.content))

end ValueType

/-! ## The type of a schema -/

namespace Schema

mutual

/-- The type of a schema by itself, whose declarations all bear the mark 0. -/
def valueType : Schema → ValueType
  | .primitive .number => .number
  | .primitive .text => .text
  | .primitive .null => .null false
  | .primitive .any => .any
  | .literal c _ => .literal c 0
  | .tuple items _ => .tuple (valueTypes items)
  | .array _ item _ => .list (valueType item)
  | .dictionary key value _ => .dict (valueType key) (valueType value)
  | .object required fields label =>
    .typedDictOf (name (.object required fields label)) 0 (typedFieldsOf required fields)
  | .union alternatives _ => .unionOf (valueTypes alternatives)
  | .intersection members label =>
    match mergedFields [] members with
    | some fields => .typedDictOf (name (.intersection members label)) 0 fields
    | none => (valueTypes members).headD .any

def valueTypes : List Schema → List ValueType
  | [] => []
  | s :: rest => valueType s :: valueTypes rest

def typedFieldsOf (required : Bool) : List (String × Schema) → List (Field ValueType)
  | [] => []
  | (key, s) :: rest => ⟨key, required, valueType s⟩ :: typedFieldsOf required rest

def typedFields : Schema → Option (List (Field ValueType))
  | .object required fields _ => some (typedFieldsOf required fields)
  | .intersection members _ => mergedFields [] members
  | _ => none

def mergedFields (gathered : List (Field ValueType)) :
    List Schema → Option (List (Field ValueType))
  | [] => some gathered
  | member :: rest =>
    match typedFields member with
    | some fields => mergedFields (Field.merge gathered fields) rest
    | none => none

end

end Schema

end GeoSchema
