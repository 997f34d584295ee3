/-!
# Variables

Names with contents, in the order in which they were first set.
-/

namespace GeoSchema

abbrev Variables (α : Type) := List (String × α)

namespace Variables

variable {α : Type}

/-- A variable that is there already keeps its place. -/
def set (name : String) (content : α) : Variables α → Variables α
  | [] => [(name, content)]
  | (n, c) :: rest => if n = name then (n, content) :: rest else (n, c) :: set name content rest

def unset (name : String) (vars : Variables α) : Variables α := vars.filter (·.1 != name)

/-- Names are compared without regard to case; of several, the last one counts. -/
def find? (name : String) (vars : Variables α) : Option α :=
  (vars.reverse.find? fun v => v.1.toLower == name.toLower).map (·.2)

end Variables

end GeoSchema
