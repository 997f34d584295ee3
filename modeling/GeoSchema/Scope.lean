import GeoSchema.Schema.Check
import GeoSchema.Schema.Typed

/-!
# Schemas by name

A blueprint is a schema as it is written down, before its names are looked up. Building one looks
the names up in a scope, marks each declaration with a number of its own, and gives it a type.
-/

namespace GeoSchema

inductive Blueprint where
  | named (name : String)
  | literal (c : Constant) (label : Option String)
  | tuple (items : List Blueprint) (label : Option String)
  | array (nonEmpty : Bool) (item : Blueprint) (label : Option String)
  | dictionary (key value : Blueprint) (label : Option String)
  | object (required : Bool) (fields : List (String × Blueprint)) (label : Option String)
  | union (alternatives : List Blueprint) (label : Option String)
  | intersection (members : List Blueprint) (label : Option String)
  | featureWith (properties : Blueprint) (label : Option String)
deriving Inhabited

inductive BuildError where
  | emptyUnion
  | emptyIntersection
  | unknownName (name : String)
deriving DecidableEq, Repr

def BuildError.message : BuildError → String
  | .emptyUnion => "union requires at least one alternative"
  | .emptyIntersection => "intersection requires at least one member"
  | .unknownName name => "unknown schema " ++ name

def catalogue : List (String × TypedSchema) :=
  Grammar.catalogue.map fun entry => (entry.1, .ofSchema entry.2)

/-- The names defined so far, the latest first, the next free mark, and the types formed so far.
The grammar's own declarations bear the mark 0. -/
structure Scope where
  defined : List (String × TypedSchema) := []
  nextMark : Nat := 1
  memory : Memory := {}

/-- A definition shadows the catalogue. -/
def Scope.find? (scope : Scope) (name : String) : Option TypedSchema :=
  scope.defined.lookup name <|> catalogue.lookup name

def Scope.define (scope : Scope) (name : String) (s : TypedSchema) : Scope :=
  { scope with defined := (name, s) :: scope.defined }

/-- A repeated key keeps its first place and takes the last content. -/
def lastOfEachKey {α : Type} (fields : List (String × α)) : List (String × α) :=
  fields.foldl (fun acc f =>
    if acc.any (·.1 == f.1) then acc.map fun g => if g.1 == f.1 then f else g else acc ++ [f]) []

namespace Blueprint

/-- Building reads the scope, hands out marks, remembers types, and may fail. -/
abbrev BuildM := StateT Scope (Except BuildError)

def freshMark : BuildM Nat :=
  modifyGet fun scope => (scope.nextMark, { scope with nextMark := scope.nextMark + 1 })

def declare (declaration : Memory → TypedSchema × Memory) : BuildM TypedSchema :=
  modifyGet fun scope =>
    let (s, memory) := declaration scope.memory
    (s, { scope with memory })

mutual

/-- The parts are built in order, and before the whole. -/
def build : Blueprint → BuildM TypedSchema
  | .named name => do
    match (← get).find? name with
    | some s => return s
    | none => throw (.unknownName name)
  | .literal c label => do declare (TypedSchema.literal c label (← freshMark))
  | .tuple items label => return .tuple (← buildAll items) label
  | .array nonEmpty item label => return .array nonEmpty (← build item) label
  | .dictionary key value label => return .dictionary (← build key) (← build value) label
  | .object required fields label => do
    let fields ← buildFields fields
    declare (TypedSchema.object required (lastOfEachKey fields) label (← freshMark))
  | .union alternatives label => do
    match ← buildAll alternatives with
    | [] => throw .emptyUnion
    | built => declare (TypedSchema.union built label)
  | .intersection members label => do
    match ← buildAll members with
    | [] => throw .emptyIntersection
    | built => declare (TypedSchema.intersection built label (← freshMark))
  | .featureWith properties label => do
    let properties ← build properties
    declare (TypedSchema.featureWith properties label (← freshMark))

def buildAll : List Blueprint → BuildM (List TypedSchema)
  | [] => return []
  | b :: rest => return (← build b) :: (← buildAll rest)

def buildFields : List (String × Blueprint) → BuildM (List (String × TypedSchema))
  | [] => return []
  | (key, b) :: rest => return (key, ← build b) :: (← buildFields rest)

end

/-- Adds the definitions to the scope in order; each may use those before it. -/
def defineAll : List (String × Blueprint) → BuildM Unit
  | [] => return
  | (name, b) :: rest => do
    let s ← build b
    modify (·.define name s)
    defineAll rest

end Blueprint

structure Declaration where
  defs : List (String × Blueprint) := []
  schema : Blueprint
deriving Inhabited

/-- The schema, and the scope after it with the definitions it had before: those of the
declaration do not outlive it. -/
def Declaration.build (d : Declaration) (scope : Scope) : Except BuildError (TypedSchema × Scope) := do
  let (s, after) ← ((do Blueprint.defineAll d.defs; d.schema.build) : Blueprint.BuildM TypedSchema).run scope
  return (s, { after with defined := scope.defined })

/-- The names of the catalogue whose schemas accept the value, sorted. -/
def Grammar.acceptedBy (v : Value) : List String :=
  ((catalogue.filter fun entry => entry.2.accepts v).map (·.1)).mergeSort

end GeoSchema
