/-!
# Text templates

A template is filled by replacing a placeholder wherever it stands. Text that has been put in is
not searched for the same placeholder again, but it is searched for the placeholders filled later.
-/

namespace GeoSchema.Text

/-- Replaces the occurrences of a pattern from left to right; `skip` counts the characters of the
last occurrence that are still to be passed over. -/
def replaceFrom (pattern filling : List Char) : Nat → List Char → List Char
  | _, [] => []
  | skip + 1, _ :: rest => replaceFrom pattern filling skip rest
  | 0, c :: rest =>
    if pattern.isPrefixOf (c :: rest) then
      filling ++ replaceFrom pattern filling (pattern.length - 1) rest
    else c :: replaceFrom pattern filling 0 rest

/-- Replaces every occurrence of a pattern that is not empty. -/
def replaceAll (pattern filling template : String) : String :=
  String.ofList (replaceFrom pattern.toList filling.toList 0 template.toList)

end GeoSchema.Text
