import GeoSchema.Text.Printable

/-!
# Quoted text

Text stands between single quotes, or between double ones when that spares an escape. A backslash
and the quote in use are escaped by a backslash, line feed, carriage return and tab by their
letter, and every other unprintable character by its code in hexadecimal. Bytes are quoted the
same way, with everything beyond printable ASCII by its code.
-/

namespace GeoSchema.Text

/-- Double quotes only for a text that holds a single quote and no double one. -/
def quoteFor (s : List Char) : Char :=
  if '\'' ∈ s ∧ '"' ∉ s then '"' else '\''

def hexDigits (width code : Nat) : List Char :=
  (Nat.toDigits 16 code).leftpad width '0'

/-- The shortest of the three forms that holds the code: two, four or eight digits. -/
def codeEscape (code : Nat) : List Char :=
  if code ≤ 0xff then '\\' :: 'x' :: hexDigits 2 code
  else if code ≤ 0xffff then '\\' :: 'u' :: hexDigits 4 code
  else '\\' :: 'U' :: hexDigits 8 code

def shortEscape? (quote c : Char) : Option (List Char) :=
  if c = quote ∨ c = '\\' then some ['\\', c]
  else if c = '\n' then some ['\\', 'n']
  else if c = '\r' then some ['\\', 'r']
  else if c = '\t' then some ['\\', 't']
  else none

def escapeChar (quote c : Char) : List Char :=
  match shortEscape? quote c with
  | some e => e
  | none => if isPrintable c then [c] else codeEscape c.toNat

def escapeByte (quote c : Char) : List Char :=
  match shortEscape? quote c with
  | some e => e
  | none => if ' ' ≤ c ∧ c ≤ '~' then [c] else codeEscape c.toNat

def between (quote : Char) (body : List Char) : List Char := quote :: body ++ [quote]

def quoted (s : String) : String :=
  let quote := quoteFor s.toList
  String.ofList (between quote (s.toList.flatMap (escapeChar quote)))

/-- Each byte is written as the character with that code. -/
def quotedBytes (bytes : List UInt8) : String :=
  let s := bytes.map fun b => Char.ofNat b.toNat
  let quote := quoteFor s
  String.ofList ('b' :: between quote (s.flatMap (escapeByte quote)))

end GeoSchema.Text
