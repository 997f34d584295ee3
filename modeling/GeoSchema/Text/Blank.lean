import GeoSchema.Text.Ranges

/-!
# White space

The Unicode property `White_Space` has 25 characters. Some texts count the four separators of
ASCII (file, group, record and unit) as space as well.
-/

namespace GeoSchema.Text

def blankRanges : List (Nat × Nat) :=
  [(0x9, 0xd), (0x20, 0x20), (0x85, 0x85), (0xa0, 0xa0), (0x1680, 0x1680), (0x2000, 0x200a),
    (0x2028, 0x2029), (0x202f, 0x202f), (0x205f, 0x205f), (0x3000, 0x3000)]

def isBlank (c : Char) : Bool := inRanges blankRanges c.toNat

/-- White space, or one of the separators of ASCII. -/
def isSpace (c : Char) : Bool := isBlank c || (0x1c ≤ c.toNat && c.toNat ≤ 0x1f)

def trimEnd (inClass : Char → Bool) (s : List Char) : List Char :=
  (s.reverse.dropWhile inClass).reverse

def trim (s : List Char) : List Char := trimEnd isBlank (s.dropWhile isBlank)

end GeoSchema.Text
