import GeoSchema.Schema.ValueType

/-!
# Types formed before

A type that is formed from parts is remembered. Parts that are the same as those of a remembered
type give that type again, as it was spelled the first time: the members of a union in their first
order, and a zero with its first sign. Of each kind the latest 128 are remembered.
-/

namespace GeoSchema

def capacity : Nat := 128

/-- What is remembered under a key that is the same, or else the new content; and all that is
remembered from then on, the latest first. -/
def recalled {κ α : Type} (same : κ → κ → Bool) (key : κ) (new : α) (known : List (κ × α)) :
    α × List (κ × α) :=
  match known.find? fun e => same e.1 key with
  | some e => (e.2, e :: known.eraseP fun e => same e.1 key)
  | none => (new, ((key, new) :: known).take capacity)

inductive Former where
  | required
  | optional
  | union
deriving DecidableEq, Repr

structure Formation where
  former : Former
  parts : List ValueType

def Formation.same (f g : Formation) : Bool :=
  f.former == g.former && ValueType.sameItems f.parts g.parts

/-- A constant as the type of one declaration. -/
structure LiteralKey where
  constant : Constant
  mark : Nat

def LiteralKey.same (k l : LiteralKey) : Bool :=
  ValueType.sameConstant k.constant k.mark l.constant l.mark

structure Memory where
  formed : List (Formation × ValueType) := []
  literals : List (LiteralKey × ValueType) := []

namespace Memory

def form (former : Former) (parts : List ValueType) (new : ValueType) (memory : Memory) :
    ValueType × Memory :=
  let (t, formed) := recalled Formation.same ⟨former, parts⟩ new memory.formed
  (t, { memory with formed })

def literal (c : Constant) (mark : Nat) (memory : Memory) : ValueType × Memory :=
  let (t, literals) := recalled LiteralKey.same ⟨c, mark⟩ (.literal c mark) memory.literals
  (t, { memory with literals })

def unionOf (members : List ValueType) (memory : Memory) : ValueType × Memory :=
  memory.form .union members (ValueType.unionOf members)

def fields : List (Field ValueType) → Memory → List (Field ValueType) × Memory
  | [], memory => ([], memory)
  | f :: rest, memory =>
    let former := if f.required then Former.required else .optional
    let (t, memory) := memory.form former [f.content] f.content
    let (shown, memory) := fields rest memory
    ({ f with content := t } :: shown, memory)

def typedDict (name : String) (mark : Nat) (declared : List (Field ValueType)) (memory : Memory) :
    ValueType × Memory :=
  let (shown, memory) := memory.fields declared
  (.typedDictOf name mark shown, memory)

end Memory

end GeoSchema
