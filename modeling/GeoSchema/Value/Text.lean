import GeoSchema.Double.Shortest
import GeoSchema.Text.Quoted
import GeoSchema.Value.Basic

/-!
# The text of a value

The spelling in which messages show a value. It tells the kinds of value apart: `1`, `1.0` and
`True`, lists and tuples, text and bytes. An integer is written out however long it is.
-/

namespace GeoSchema.Value

def bracketed (opening closing : String) (parts : List String) : String :=
  opening ++ ", ".intercalate parts ++ closing

/-- A tuple of one element keeps a comma. -/
def tupleText : List String → String
  | [part] => "(" ++ part ++ ",)"
  | parts => bracketed "(" ")" parts

mutual

def render : Value → String
  | .null => "None"
  | .bool b => if b then "True" else "False"
  | .int n => toString n
  | .float x => x.render
  | .text s => Text.quoted s
  | .bytes data => Text.quotedBytes data
  | .list items => bracketed "[" "]" (renderItems items)
  | .tuple items => tupleText (renderItems items)
  | .dict entries => bracketed "\x7b" "\x7d" (renderEntries entries)

def renderItems : List Value → List String
  | [] => []
  | v :: rest => v.render :: renderItems rest

def renderEntries : List (Value × Value) → List String
  | [] => []
  | (k, v) :: rest => (k.render ++ ": " ++ v.render) :: renderEntries rest

end

end GeoSchema.Value
