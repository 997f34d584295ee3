import GeoSchema.Settings.Variables
import GeoSchema.Text.Blank

/-!
# Dotenv texts

A dotenv text binds names to texts, one binding a line. A name may follow the word `export`, and
may stand between single quotes; a text may stand between quotes of either kind, and then go on over
several lines; a comment opens with `#`. A line that is none of this is passed over. At last the
variables that the texts refer to are put in. Only `Settings.withDotenv` reads such texts.
-/

namespace GeoSchema.Dotenv

/-- A name without a sign of equality behind it is bound to nothing. -/
structure Binding where
  name : String
  text : Option String
deriving DecidableEq, Repr

/-! ## Lines -/

/-- The ends of lines, in any convention, as line feeds. -/
def unifyLines : List Char → List Char
  | [] => []
  | '\r' :: '\n' :: rest => '\n' :: unifyLines rest
  | '\r' :: rest => '\n' :: unifyLines rest
  | c :: rest => c :: unifyLines rest

def isInline (c : Char) : Bool := Text.isSpace c && c != '\n'

def skipInline (cs : List Char) : List Char := cs.dropWhile isInline

def nextLine (cs : List Char) : List Char := (cs.dropWhile (· != '\n')).drop 1

/-! ## The parts of a binding -/

/-- A part that was read and the rest of the text, or the place where reading got stuck. -/
abbrev Reading (α : Type) := Except (List Char) (α × List Char)

def exportWord : List Char := "export".toList

/-- The word counts only with space behind it. -/
def skipExport (cs : List Char) : List Char :=
  let rest := cs.drop exportWord.length
  if exportWord.isPrefixOf cs && rest.head?.any isInline then skipInline rest else cs

def isNameChar (c : Char) : Bool := c != '=' && c != '#' && !Text.isSpace c

/-- There is no name where a comment opens. -/
def readName (cs : List Char) : Reading (Option String) :=
  match cs with
  | '#' :: _ => .ok (none, cs)
  | '\'' :: rest =>
    match rest.takeWhile (· != '\''), rest.dropWhile (· != '\'') with
    | c :: name, _ :: after => .ok (some (String.ofList (c :: name)), after)
    | _, _ => .error cs
  | _ =>
    match cs.takeWhile isNameChar with
    | [] => .error cs
    | name => .ok (some (String.ofList name), cs.dropWhile isNameChar)

/-- What stands before the closing quote, and the rest behind it. A quote after a backslash closes
only if no other quote does. -/
def upToQuote (quote : Char) : List Char → Option (List Char × List Char)
  | [] => none
  | [c] => if c = quote then some ([], []) else none
  | '\\' :: c :: rest =>
    if c = quote then
      match upToQuote quote rest with
      | some (body, after) => some ('\\' :: c :: body, after)
      | none => some (['\\'], rest)
    else (upToQuote quote (c :: rest)).map fun (body, after) => ('\\' :: body, after)
  | d :: c :: rest =>
    if d = quote then some ([], c :: rest)
    else (upToQuote quote (c :: rest)).map fun (body, after) => (d :: body, after)

def singleEscapes : List (Char × Char) := [('\\', '\\'), ('\'', '\'')]

def doubleEscapes : List (Char × Char) :=
  singleEscapes ++
    [('"', '"'), ('a', '\x07'), ('b', '\x08'), ('f', '\x0c'), ('n', '\n'), ('r', '\r'), ('t', '\t'),
      ('v', '\x0b')]

/-- A backslash that opens no escape stands for itself. -/
def unescape (escapes : List (Char × Char)) : List Char → List Char
  | [] => []
  | [c] => [c]
  | d :: c :: rest =>
    match if d = '\\' then escapes.lookup c else none with
    | some e => e :: unescape escapes rest
    | none => d :: unescape escapes (c :: rest)

/-- Cuts off a comment, which has space before it. -/
def beforeComment (afterSpace : Bool) : List Char → List Char
  | [] => []
  | c :: rest =>
    if afterSpace && c == '#' then [] else c :: beforeComment (Text.isSpace c) rest

def quotedText (quote : Char) (escapes : List (Char × Char)) (cs : List Char) : Reading String :=
  match upToQuote quote (cs.drop 1) with
  | some (body, after) => .ok (String.ofList (unescape escapes body), after)
  | none => .error cs

/-- A text without quotes goes on to the end of the line. -/
def readText (cs : List Char) : Reading String :=
  match cs with
  | '\'' :: _ => quotedText '\'' singleEscapes cs
  | '"' :: _ => quotedText '"' doubleEscapes cs
  | _ =>
    let line := cs.takeWhile (· != '\n')
    .ok (String.ofList (Text.trimEnd Text.isSpace (beforeComment false line)),
      cs.dropWhile (· != '\n'))

def readBound (cs : List Char) : Reading (Option String) :=
  match cs with
  | '=' :: rest => (readText (skipInline rest)).map fun (text, after) => (some text, after)
  | _ => .ok (none, cs)

/-- A comment may stand before the end of the line, but nothing else. -/
def readEnd (cs : List Char) : Except (List Char) (List Char) :=
  let rest := skipInline cs
  let rest := if rest.head? = some '#' then rest.dropWhile (· != '\n') else rest
  match rest with
  | [] => .ok []
  | '\n' :: after => .ok after
  | _ => .error rest

/-! ## All bindings -/

def readBinding (cs : List Char) : Except (List Char) (Option Binding × List Char) := do
  let (name, cs) ← readName (skipExport cs)
  let (text, cs) ← readBound (skipInline cs)
  let cs ← readEnd cs
  return (name.map fun name => ⟨name, text⟩, cs)

/-- The binding that opens the text, if any, and the rest. After a line that cannot be read the
next one follows. -/
def takeBinding (cs : List Char) : Option Binding × List Char :=
  match readBinding cs with
  | .ok (binding, rest) => (binding, rest)
  | .error stuck => (none, nextLine stuck)

def bindingsFrom (cs : List Char) : List Binding :=
  match cs.dropWhile Text.isSpace with
  | [] => []
  | c :: line =>
    let (binding, rest) := takeBinding (c :: line)
    -- Something is read in any case.
    if rest.length < cs.length then binding.toList ++ bindingsFrom rest else binding.toList
termination_by cs.length

def bindings (text : String) : List Binding := bindingsFrom (unifyLines text.toList)

/-! ## References -/

/-- A reference to a variable, after its dollar sign: the name, the text that stands in if there is
no such variable, and the rest. -/
def reference? (cs : List Char) : Option (String × String × List Char) :=
  match cs with
  | '\x7b' :: opened =>
    let name := String.ofList (opened.takeWhile fun c => c != '\x7d' && c != ':')
    match opened.dropWhile fun c => c != '\x7d' && c != ':' with
    | '\x7d' :: rest => some (name, "", rest)
    | ':' :: '-' :: default =>
      match default.dropWhile (· != '\x7d') with
      | _ :: rest => some (name, String.ofList (default.takeWhile (· != '\x7d')), rest)
      | [] => none
    | _ => none
  | _ => none

def expand (valueOf : String → Option String) (cs : List Char) : List Char :=
  match cs with
  | [] => []
  | c :: rest =>
    match if c = '$' then reference? rest else none with
    | some (name, default, after) =>
      let content := ((valueOf name).getD default).toList
      if after.length ≤ rest.length then content ++ expand valueOf after else content
    | none => c :: expand valueOf rest
termination_by cs.length

/-- A variable that was bound before comes first, and one that was bound to nothing is empty. -/
def valueIn (environment : Variables String) (bound : Variables (Option String)) (name : String) :
    Option String :=
  match bound.lookup name with
  | some text => some (text.getD "")
  | none => environment.lookup name

def boundIn (environment : Variables String) (text : String) : Variables (Option String) :=
  (bindings text).foldl (fun bound b =>
    let expanded := b.text.map fun t => String.ofList (expand (valueIn environment bound) t.toList)
    bound.set b.name expanded) []

end GeoSchema.Dotenv
