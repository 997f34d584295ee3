import GeoSchema.Schema.Basic

/-!
# The fields of an object schema

Objects have fields, and so do intersections of nothing but schemas with fields. A field that
several members declare stands at its first place, and its content is that of the first member
that requires it, or else of the last.
-/

namespace GeoSchema

structure Field (α : Type) where
  key : String
  required : Bool
  content : α
deriving DecidableEq, Repr

namespace Field

variable {α : Type}

/-- A field that is there already gives way in place, unless it is required. -/
def insert (f : Field α) : List (Field α) → List (Field α)
  | [] => [f]
  | g :: rest =>
    if g.key = f.key then (if g.required then g else f) :: rest else g :: insert f rest

def merge (fields added : List (Field α)) : List (Field α) :=
  added.foldl (fun acc f => insert f acc) fields

end Field

namespace Schema

mutual

def properties : Schema → Option (List (Field Schema))
  | .object required fields _ => some (fields.map fun f => ⟨f.1, required, f.2⟩)
  | .intersection members _ => mergedProperties [] members
  | _ => none

def mergedProperties (gathered : List (Field Schema)) :
    List Schema → Option (List (Field Schema))
  | [] => some gathered
  | member :: rest =>
    match properties member with
    | some fields => mergedProperties (Field.merge gathered fields) rest
    | none => none

end

end Schema

end GeoSchema
