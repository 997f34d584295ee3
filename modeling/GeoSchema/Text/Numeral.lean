import GeoSchema.Text.Blank

/-!
# Numerals

An integer is written in decimal digits after an optional sign. Around this plain form there is
some leeway: blanks at both ends, leading zeros, single underscores between digits, and a point
with nothing but zeros behind it. A numeral of more than 4300 characters is refused.
-/

namespace GeoSchema.Text.Numeral

def mostCharacters : Nat := 4300

/-! ## The plain form -/

def nonzeroDigit (c : Char) : Bool := '1' ≤ c && c ≤ '9'

def valueOf (digits : List Char) : Nat :=
  digits.foldl (fun n c => 10 * n + (c.toNat - '0'.toNat)) 0

/-- Digits without a leading zero, or a single zero. -/
def natural? (cs : List Char) : Option Nat :=
  match cs with
  | ['0'] => some 0
  | c :: _ => if nonzeroDigit c && cs.all Char.isDigit then some (valueOf cs) else none
  | [] => none

def plain? (cs : List Char) : Option Int :=
  if mostCharacters < cs.length then none
  else
    match cs with
    | '-' :: digits => (natural? digits).map fun n => -(n : Int)
    | digits => (natural? digits).map fun n => (n : Int)

/-! ## The leeway -/

/-- Drops the zeros and underscores that follow a zero, up to a digit or a minus. The last of them
stays before a point and at the end. -/
def afterZero (last : Char) : List Char → Option (List Char)
  | [] => some [last]
  | c :: cs =>
    if c = '0' ∨ c = '_' then afterZero c cs
    else if nonzeroDigit c ∨ c = '-' then some (c :: cs)
    else if c = '.' then some (last :: c :: cs)
    else none

/-- Nothing but a digit may stand first. -/
def dropZeros : List Char → Option (List Char)
  | [] => none
  | c :: cs => if c = '0' then afterZero c cs else if nonzeroDigit c then some (c :: cs) else none

/-- Drops a point with zeros, at least one, behind it. -/
def dropFraction (cs : List Char) : List Char :=
  let zeros := (cs.dropWhile (· != '.')).drop 1
  if !zeros.isEmpty && zeros.all (· == '0') then cs.takeWhile (· != '.') else cs

/-- No underscore stands at an end or beside another one. -/
def wellSpaced : List Char → Bool
  | [] => true
  | ['_'] => false
  | '_' :: '_' :: _ => false
  | _ :: rest => wellSpaced rest

def dropUnderscores (cs : List Char) : List Char :=
  if cs.head? != some '_' && wellSpaced cs then cs.filter (· != '_') else cs

def unsigned? (cs : List Char) : Option (List Char) :=
  (dropZeros cs).map fun digits => dropUnderscores (dropFraction digits)

/-- The integer that a text stands for. A minus that follows leading zeros counts as the sign, if
there is no other minus. -/
def integer? (text : List Char) : Option Int :=
  match Text.trim text with
  | '-' :: cs => (unsigned? cs).bind fun digits => plain? ('-' :: digits)
  | '+' :: cs => (unsigned? cs).bind plain?
  | cs => (unsigned? cs).bind plain?

/-! ## Size -/

/-- The digits that a text opens with, if the first is not zero. -/
def leadingDigits (cs : List Char) : List Char :=
  match cs with
  | c :: _ => if nonzeroDigit c then cs.takeWhile Char.isDigit else []
  | [] => []

/-- The text opens with a plain numeral of too many characters, whatever follows. -/
def oversized (text : List Char) : Bool :=
  match text with
  | '-' :: cs => mostCharacters < (leadingDigits cs).length + 1
  | cs => mostCharacters < (leadingDigits cs).length

end GeoSchema.Text.Numeral
