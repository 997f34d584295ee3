import GeoSchema.Issue
import GeoSchema.Schema.Basic

/-!
# Checking a value

`Schema.check` returns the issues at and below a path; none means that the value is accepted. A
fail-fast check looks no further than the first part that has issues.
-/

namespace GeoSchema

/-- The issues of all parts in order, or of the first part that has any. -/
def gather {α : Type} (failFast : Bool) (issuesOf : α → List Issue) : List α → List Issue
  | [] => []
  | part :: rest =>
    let found := issuesOf part
    if failFast && !found.isEmpty then found else found ++ gather failFast issuesOf rest

namespace Schema

/-- The members after this one are skipped: a value of the wrong shape at the path itself fails
them the same way. -/
def wrongShapeAt (path : Path) (issues : List Issue) : Bool :=
  issues.any fun issue => issue.path = path && issue.kind = .shapeMismatch

mutual

def check : Schema → Value → Path → Bool → List Issue
  | .primitive p, v, path, _ =>
    if p.accepts v then [] else [.refusal path p.name .shapeMismatch v]
  | .literal c label, v, path, _ =>
    if c.equals v then [] else [.refusal path (labelled label c.name) .tagMismatch v]
  | .tuple items label, v, path, failFast =>
    let refused := [Issue.refusal path (name (.tuple items label)) .shapeMismatch v]
    match v.elements? with
    | none => refused
    | some elements =>
      if elements.length = items.length then checkItems items elements 0 path failFast
      else refused
  | .array nonEmpty item label, v, path, failFast =>
    let refused kind := [Issue.refusal path (name (.array nonEmpty item label)) kind v]
    match v.elements? with
    | none => refused .shapeMismatch
    | some elements =>
      if nonEmpty && elements.isEmpty then refused .emptinessViolation
      else gather failFast (fun e => check item e.1 (path ++ [.index e.2]) failFast) elements.zipIdx
  | .dictionary key value label, v, path, failFast =>
    match v.entries? with
    | none => [.refusal path (name (.dictionary key value label)) .shapeMismatch v]
    | some entries =>
      -- The value of an entry is checked even if its key is refused.
      gather failFast (fun e =>
        check key e.1 (path ++ [.ofKey e.1]) failFast ++
          check value e.2 (path ++ [.ofKey e.1]) failFast) entries
  | .object required fields label, v, path, failFast =>
    match v.members? with
    | none => [.refusal path (name (.object required fields label)) .shapeMismatch v]
    | some members => checkFields required fields members path failFast
  | .union alternatives label, v, path, failFast =>
    match checkAlternatives alternatives v path failFast with
    | none => []
    | some causes =>
      [{ path, expected := name (.union alternatives label), kind := .allAlternativesFailed,
         value := v, causes }]
  | .intersection members _, v, path, failFast => checkMembers members v path failFast

/-- Only the first refused element is reported, in either mode. -/
def checkItems : List Schema → List Value → Nat → Path → Bool → List Issue
  | item :: items, element :: elements, i, path, failFast =>
    let found := check item element (path ++ [.index i]) failFast
    if found.isEmpty then checkItems items elements (i + 1) path failFast else found
  | _, _, _, _, _ => []

/-- A field that is there is checked whatever it holds, also when it holds `null`. -/
def checkFields (required : Bool) :
    List (String × Schema) → List (String × Value) → Path → Bool → List Issue
  | [], _, _, _ => []
  | (key, field) :: fields, members, path, failFast =>
    let found :=
      match members.lookup key with
      | some v => check field v (path ++ [.key key]) failFast
      | none => if required then [.refusal (path ++ [.key key]) field.name .missingField .null] else []
    if failFast && !found.isEmpty then found
    else found ++ checkFields required fields members path failFast

/-- The issues of all alternatives, or nothing if one of them accepts. -/
def checkAlternatives : List Schema → Value → Path → Bool → Option (List Issue)
  | [], _, _, _ => some []
  | alternative :: rest, v, path, failFast =>
    let found := check alternative v path failFast
    if found.isEmpty then none
    else (checkAlternatives rest v path failFast).map (found ++ ·)

def checkMembers : List Schema → Value → Path → Bool → List Issue
  | [], _, _, _ => []
  | member :: rest, v, path, failFast =>
    let found := check member v path failFast
    if (failFast && !found.isEmpty) || wrongShapeAt path found then found
    else found ++ checkMembers rest v path failFast

end

def accepts (s : Schema) (v : Value) : Bool := (s.check v [] true).isEmpty

/-- The place and the schema of the first alternative that accepts. -/
def firstAccepting (alternatives : List Schema) (v : Value) : Option (Nat × Schema) :=
  (alternatives.zipIdx.find? (·.1.accepts v)).map fun (s, i) => (i, s)

def alternative? : Schema → Value → Option (Nat × Schema)
  | .union alternatives _, v => firstAccepting alternatives v
  | _, _ => none

end Schema

end GeoSchema
