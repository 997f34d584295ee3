import GeoSchema.Grammar
import GeoSchema.Schema.Memory

/-!
# Schemas with their types

A schema gets its type when it is declared, from the types of its parts and from what is
remembered at that time. Objects, and intersections of objects, keep the types of their fields.
-/

namespace GeoSchema

structure TypedSchema where
  schema : Schema
  type : ValueType
  fields : Option (List (Field ValueType)) := none
deriving Inhabited

namespace TypedSchema

def ofSchema (s : Schema) : TypedSchema := ⟨s, s.valueType, s.typedFields⟩

def schemas (members : List TypedSchema) : List Schema := members.map (·.schema)

def types (members : List TypedSchema) : List ValueType := members.map (·.type)

/-! ## Declarations -/

def literal (c : Constant) (label : Option String) (mark : Nat) (memory : Memory) :
    TypedSchema × Memory :=
  let (type, memory) := memory.literal c mark
  ({ schema := .literal c label, type }, memory)

def tuple (items : List TypedSchema) (label : Option String) : TypedSchema :=
  { schema := .tuple (schemas items) label, type := .tuple (types items) }

def array (nonEmpty : Bool) (item : TypedSchema) (label : Option String) : TypedSchema :=
  { schema := .array nonEmpty item.schema label, type := .list item.type }

def dictionary (key value : TypedSchema) (label : Option String) : TypedSchema :=
  { schema := .dictionary key.schema value.schema label, type := .dict key.type value.type }

def object (required : Bool) (fields : List (String × TypedSchema)) (label : Option String)
    (mark : Nat) (memory : Memory) : TypedSchema × Memory :=
  let schema := Schema.object required (fields.map fun f => (f.1, f.2.schema)) label
  let declared := fields.map fun f => ⟨f.1, required, f.2.type⟩
  let (type, memory) := memory.typedDict schema.name mark declared
  ({ schema, type, fields := some declared }, memory)

def union (alternatives : List TypedSchema) (label : Option String) (memory : Memory) :
    TypedSchema × Memory :=
  let (type, memory) := memory.unionOf (types alternatives)
  ({ schema := .union (schemas alternatives) label, type }, memory)

/-- The fields of all members, if every member has fields. -/
def mergedFields (gathered : List (Field ValueType)) :
    List TypedSchema → Option (List (Field ValueType))
  | [] => some gathered
  | member :: rest =>
    match member.fields with
    | some fields => mergedFields (Field.merge gathered fields) rest
    | none => none

def intersection (members : List TypedSchema) (label : Option String) (mark : Nat)
    (memory : Memory) : TypedSchema × Memory :=
  let schema := Schema.intersection (schemas members) label
  match mergedFields [] members with
  | some fields =>
    let (type, memory) := memory.typedDict schema.name mark fields
    ({ schema, type, fields := some fields }, memory)
  | none => ({ schema, type := (types members).headD .any }, memory)

theorem intersection_schema {members : List TypedSchema} {memory : Memory} (label : Option String)
    (mark : Nat) :
    (intersection members label mark memory).1.schema = .intersection (schemas members) label := by
  unfold intersection
  split <;> rfl

def featureWith (properties : TypedSchema) (label : Option String) (mark : Nat)
    (memory : Memory) : TypedSchema × Memory :=
  let (tag, memory) := literal (.text "Feature") none mark memory
  let (mandatory, memory) := object true
    [("type", tag), ("geometry", ofSchema Grammar.featureGeometry), ("properties", properties)]
    none mark memory
  let (free, memory) := object false
    [("id", ofSchema Grammar.featureId), ("bbox", ofSchema Grammar.boundingBox)] none mark memory
  intersection [mandatory, free] label mark memory

end TypedSchema

end GeoSchema
