import GeoSchema.Value.Basic

/-!
# Keys of dictionaries

Two keys are the same if they are equal as values. Numbers are compared by exact value, and a
truth value counts as 1 or 0.
-/

namespace GeoSchema.Value

def flagNumber (b : Bool) : Int := if b then 1 else 0

/-- Whether the value, as a key, is the same as an integer. -/
def isInteger : Value → Int → Bool
  | .bool b, n => flagNumber b == n
  | .int m, n => m == n
  | .float x, n => x.equalsInt n
  | _, _ => false

mutual

/-- What is not a number is the same as no other key. Lists and dictionaries are no keys. -/
def sameKey : Value → Value → Bool
  | .null, .null => true
  | .bool b, k => k.isInteger (flagNumber b)
  | .int n, k => k.isInteger n
  | .float x, .float y => x.equals y
  | .float x, .int n => x.equalsInt n
  | .float x, .bool b => x.equalsInt (flagNumber b)
  | .text s, .text s' => s == s'
  | .bytes data, .bytes data' => data == data'
  | .tuple items, .tuple items' => sameKeys items items'
  | _, _ => false

def sameKeys : List Value → List Value → Bool
  | [], [] => true
  | k :: rest, k' :: rest' => sameKey k k' && sameKeys rest rest'
  | _, _ => false

end

/-- An entry whose key is there already keeps its place and its key, and takes the new content. -/
def insertEntry (key content : Value) : List (Value × Value) → List (Value × Value)
  | [] => [(key, content)]
  | (k, v) :: rest =>
    if k.sameKey key then (k, content) :: rest else (k, v) :: insertEntry key content rest

def dictOf (entries : List (Value × Value)) : Value :=
  .dict (entries.foldl (fun acc e => insertEntry e.1 e.2 acc) [])

end GeoSchema.Value
