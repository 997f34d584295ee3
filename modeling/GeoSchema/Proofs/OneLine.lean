import GeoSchema.Proofs.Parts
import Mathlib.Data.List.Basic

/-!
# Written forms on one line

A value is written without a line feed, whatever stands in it: texts and bytes are escaped, and all else
is made of digits, signs and words. The name of a schema is on one line if the labels, keys and texts that
stand in it are.
-/

namespace GeoSchema

namespace Text

def OneLine (text : String) : Prop := '\n' ∉ text.toList

instance (text : String) : Decidable (OneLine text) :=
  inferInstanceAs (Decidable (¬ '\n' ∈ text.toList))

theorem oneLine_ofList_iff {s : List Char} : OneLine (String.ofList s) ↔ '\n' ∉ s := by
  rw [OneLine, String.toList_ofList]

theorem oneLine_append_iff {s t : String} : OneLine (s ++ t) ↔ OneLine s ∧ OneLine t := by
  unfold OneLine
  rw [String.toList_append, List.mem_append, not_or]

theorem oneLine_enclosed {opening middle closing : String} (hopening : OneLine opening)
    (hclosing : OneLine closing) (h : OneLine middle) : OneLine (opening ++ middle ++ closing) :=
  oneLine_append_iff.mpr ⟨oneLine_append_iff.mpr ⟨hopening, h⟩, hclosing⟩

theorem oneLine_intercalate_iff {separator : String} (h : OneLine separator) {parts : List String} :
    OneLine (separator.intercalate parts) ↔ ∀ part ∈ parts, OneLine part := by
  induction parts with
  | nil => simp [OneLine]
  | cons first rest ih =>
    cases rest with
    | nil => simp
    | cons second later =>
      rw [String.intercalate_cons_cons, oneLine_append_iff, oneLine_append_iff, ih, and_iff_left h]
      exact List.forall_mem_cons.symm

theorem oneLine_joined {opening separator closing : String} (hopening : OneLine opening)
    (hseparator : OneLine separator) (hclosing : OneLine closing) {parts : List String}
    (h : ∀ part ∈ parts, OneLine part) : OneLine (opening ++ separator.intercalate parts ++ closing) :=
  oneLine_enclosed hopening hclosing ((oneLine_intercalate_iff hseparator).mpr h)

/-! ## Numerals -/

theorem digitChar_ne_newline (d : Nat) : Nat.digitChar d ≠ '\n' := by
  rcases Nat.lt_or_ge d 16 with hd | hd
  · have hall : ∀ d < 16, Nat.digitChar d ≠ '\n' := by decide
    exact hall d hd
  · rw [Nat.digitChar_eq_star.mpr hd]
    decide

theorem newline_not_mem_toDigits {base : Nat} (hbase : 1 < base) (n : Nat) :
    '\n' ∉ Nat.toDigits base n := by
  have hdigit (d : Nat) : '\n' ∉ [Nat.digitChar d] := by
    rw [List.mem_singleton]
    exact (digitChar_ne_newline d).symm
  induction n using Nat.strongRecOn with
  | ind n ih =>
    rw [Nat.toDigits_eq_if hbase]
    split
    · exact hdigit n
    · rename_i hle
      have hlt : n / base < n := Nat.div_lt_self (by omega) hbase
      rw [List.mem_append, not_or]
      exact ⟨ih _ hlt, hdigit _⟩

theorem isDigit_or_eq_minus_of_mem_toString {n : Int} {c : Char} (h : c ∈ (toString n).toList) :
    c.isDigit = true ∨ c = '-' := by
  have hnat {m : Nat} (h : c ∈ m.repr.toList) : c.isDigit = true := by
    rw [Nat.toList_repr] at h
    exact Nat.isDigit_of_mem_toDigits (by decide) (by decide) h
  cases n with
  | ofNat m => exact Or.inl (hnat h)
  | negSucc m =>
    have hsplit : c ∈ "-".toList ++ (m + 1).repr.toList := by
      rw [← String.toList_append]
      exact h
    rcases List.mem_append.mp hsplit with hsign | hdigits
    · exact Or.inr (by simpa using hsign)
    · exact Or.inl (hnat hdigits)

theorem not_mem_toString {c : Char} (hdigit : c.isDigit = false) (hminus : c ≠ '-') (n : Int) :
    c ∉ (toString n).toList := by
  intro h
  rcases isDigit_or_eq_minus_of_mem_toString h with h | h
  · rw [hdigit] at h
    cases h
  · exact hminus h

theorem oneLine_toString (n : Int) : OneLine (toString n) := not_mem_toString (by decide) (by decide) n

/-! ## Quoted text -/

theorem newline_not_mem_codeEscape (code : Nat) : '\n' ∉ codeEscape code := by
  have hdigits (width : Nat) : '\n' ∉ hexDigits width code := by
    unfold hexDigits List.leftpad
    rw [List.mem_append, List.mem_replicate, not_or]
    exact ⟨fun h => absurd h.2 (by decide), newline_not_mem_toDigits (by decide) code⟩
  unfold codeEscape
  split_ifs <;> simp [hdigits]

theorem quoteFor_ne_newline (s : List Char) : quoteFor s ≠ '\n' := by
  unfold quoteFor
  split_ifs <;> decide

theorem newline_not_mem_shortEscape {quote c : Char} (hquote : quote ≠ '\n') {e : List Char}
    (h : shortEscape? quote c = some e) : '\n' ∉ e := by
  unfold shortEscape? at h
  split_ifs at h with hself
  · have hc : c ≠ '\n' := by
      rintro rfl
      rcases hself with hself | hself
      · exact hquote hself.symm
      · exact absurd hself (by decide)
    cases h
    simp [hc.symm]
  all_goals
    cases h
    decide

theorem ne_newline_of_shortEscape_none {quote c : Char} (h : shortEscape? quote c = none) : c ≠ '\n' := by
  rintro rfl
  unfold shortEscape? at h
  split_ifs at h
  contradiction

theorem newline_not_mem_escape {quote : Char} (hquote : quote ≠ '\n') (c : Char) (plain : Prop)
    [Decidable plain] :
    '\n' ∉ (match shortEscape? quote c with
      | some e => e
      | none => if plain then [c] else codeEscape c.toNat) := by
  cases h : shortEscape? quote c with
  | some e => exact newline_not_mem_shortEscape hquote h
  | none =>
    have hc := ne_newline_of_shortEscape_none h
    dsimp only
    split_ifs
    · simpa using hc.symm
    · exact newline_not_mem_codeEscape _

theorem newline_not_mem_between {quote : Char} (hquote : quote ≠ '\n') {s : List Char}
    {escape : Char → List Char} (hescape : ∀ c, '\n' ∉ escape c) :
    '\n' ∉ between quote (s.flatMap escape) := by
  unfold between
  simp only [List.cons_append, List.mem_cons, List.mem_append, List.mem_flatMap, List.not_mem_nil,
    or_false, not_or, not_exists, not_and]
  exact ⟨hquote.symm, fun c _ => hescape c, hquote.symm⟩

theorem oneLine_quoted (s : String) : OneLine (quoted s) := by
  have hquote := quoteFor_ne_newline s.toList
  refine oneLine_ofList_iff.mpr (newline_not_mem_between hquote fun c => ?_)
  exact newline_not_mem_escape hquote c (isPrintable c = true)

theorem oneLine_quotedBytes (bytes : List UInt8) : OneLine (quotedBytes bytes) := by
  have hquote := quoteFor_ne_newline (bytes.map fun b => Char.ofNat b.toNat)
  refine oneLine_ofList_iff.mpr (List.not_mem_cons_of_ne_of_not_mem (by decide) ?_)
  refine newline_not_mem_between hquote fun c => ?_
  exact newline_not_mem_escape hquote c (' ' ≤ c ∧ c ≤ '~')

end Text

open Text

/-! ## Floating-point numbers -/

namespace Double

theorem newline_not_mem_layOut {digits : List Char} (h : '\n' ∉ digits) (leading : Int) :
    '\n' ∉ layOut digits leading := by
  have htake (n : Nat) : '\n' ∉ digits.take n := fun hmem => h (List.mem_of_mem_take hmem)
  have hdrop (n : Nat) : '\n' ∉ digits.drop n := fun hmem => h (List.mem_of_mem_drop hmem)
  have htail : '\n' ∉ digits.tail := fun hmem => h (List.mem_of_mem_tail hmem)
  have hexponent : '\n' ∉ Nat.toDigits 10 leading.natAbs := newline_not_mem_toDigits (by decide) _
  unfold layOut
  dsimp only
  split_ifs <;>
    simp [List.leftpad, List.rightpad, List.mem_replicate, htake, hdrop, htail, hexponent, h]

theorem newline_not_mem_renderDecimal (c : Decimal) : '\n' ∉ renderDecimal c := by
  refine newline_not_mem_layOut (fun h => ?_) _
  rw [List.mem_reverse] at h
  have hdigits := List.mem_reverse.mp ((List.dropWhile_sublist _).mem h)
  exact newline_not_mem_toDigits (by decide) c.digits hdigits

theorem oneLine_render (x : Double) : OneLine x.render := by
  cases x with
  | nan => decide
  | infinite negative => cases negative <;> decide
  | finite negative m e =>
    have hmagnitude : '\n' ∉ if m = 0 then ['0', '.', '0'] else renderDecimal (shortest m e) := by
      split_ifs
      · decide
      · exact newline_not_mem_renderDecimal _
    refine oneLine_ofList_iff.mpr ?_
    cases negative with
    | false => exact hmagnitude
    | true => exact List.not_mem_cons_of_ne_of_not_mem (by decide) hmagnitude

end Double

/-! ## Values -/

namespace Value

theorem oneLine_tupleText {parts : List String} (h : ∀ part ∈ parts, OneLine part) :
    OneLine (tupleText parts) := by
  unfold tupleText
  split
  · exact oneLine_enclosed (by decide) (by decide) (h _ List.mem_cons_self)
  · exact oneLine_joined (by decide) (by decide) (by decide) h

mutual

theorem oneLine_render : ∀ v : Value, OneLine v.render
  | .null => by decide
  | .bool b => by cases b <;> decide
  | .int n => oneLine_toString n
  | .float x => x.oneLine_render
  | .text s => oneLine_quoted s
  | .bytes data => oneLine_quotedBytes data
  | .list items => oneLine_joined (by decide) (by decide) (by decide) (oneLine_renderItems items)
  | .tuple items => oneLine_tupleText (oneLine_renderItems items)
  | .dict entries => oneLine_joined (by decide) (by decide) (by decide) (oneLine_renderEntries entries)

theorem oneLine_renderItems : ∀ items : List Value, ∀ part ∈ renderItems items, OneLine part
  | [] => List.forall_mem_nil _
  | v :: rest => List.forall_mem_cons.mpr ⟨oneLine_render v, oneLine_renderItems rest⟩

theorem oneLine_renderEntries :
    ∀ entries : List (Value × Value), ∀ part ∈ renderEntries entries, OneLine part
  | [] => List.forall_mem_nil _
  | (k, v) :: rest => by
    refine List.forall_mem_cons.mpr ⟨?_, oneLine_renderEntries rest⟩
    have hkey := oneLine_append_iff.mpr ⟨oneLine_render k, (by decide : OneLine ": ")⟩
    exact oneLine_append_iff.mpr ⟨hkey, oneLine_render v⟩

end

end Value

/-! ## Names -/

namespace Schema

variable {s : Schema}

def fieldKeys : Schema → List String
  | .object _ fields _ => fields.map (·.1)
  | _ => []

/-- Neither the name of the schema nor a key that it declares has a line feed. -/
def namedOnOneLine (s : Schema) : Bool := decide (OneLine s.name ∧ ∀ key ∈ s.fieldKeys, OneLine key)

theorem oneLine_name (h : s.throughout namedOnOneLine = true) : OneLine s.name :=
  (of_decide_eq_true (throughout_iff.mp h).1).1

theorem oneLine_fieldKey (h : s.throughout namedOnOneLine = true) {key : String} (hkey : key ∈ s.fieldKeys) :
    OneLine key :=
  (of_decide_eq_true (throughout_iff.mp h).1).2 key hkey

def label? : Schema → Option String
  | .primitive _ => none
  | .literal _ label | .tuple _ label | .array _ _ label | .dictionary _ _ label | .object _ _ label
  | .union _ label | .intersection _ label => label

def constantTexts : Schema → List String
  | .literal (.text text) _ => [text]
  | _ => []

/-- The texts that a schema adds to the names of its parts. -/
def ownTexts (s : Schema) : List String := s.label?.toList ++ s.fieldKeys ++ s.constantTexts

def spelledOnOneLine (s : Schema) : Bool := decide (∀ text ∈ s.ownTexts, OneLine text)

theorem oneLine_labelled {label : Option String} {otherwise : String}
    (hlabel : ∀ text ∈ label.toList, OneLine text) (h : OneLine otherwise) :
    OneLine (labelled label otherwise) := by
  unfold labelled
  split
  · split_ifs
    · exact h
    · exact hlabel _ List.mem_cons_self
  · exact h

theorem oneLine_constantName {c : Constant} (h : ∀ text, c = .text text → OneLine text) :
    OneLine c.name := by
  cases c with
  | null => decide
  | bool b => cases b <;> decide
  | int n => exact oneLine_toString n
  | float x => exact x.oneLine_render
  | text text => exact oneLine_enclosed (by decide) (by decide) (h text rfl)

theorem oneLine_names {schemas : List Schema} (h : ∀ s ∈ schemas, OneLine s.name) :
    ∀ text ∈ names schemas, OneLine text := by
  induction schemas with
  | nil => exact List.forall_mem_nil _
  | cons s rest ih =>
    obtain ⟨hs, hrest⟩ := List.forall_mem_cons.mp h
    exact List.forall_mem_cons.mpr ⟨hs, ih hrest⟩

theorem oneLine_fieldNames {fields : List (String × Schema)} (hkeys : ∀ f ∈ fields, OneLine f.1)
    (h : ∀ f ∈ fields, OneLine f.2.name) : ∀ text ∈ fieldNames fields, OneLine text := by
  induction fields with
  | nil => exact List.forall_mem_nil _
  | cons f rest ih =>
    obtain ⟨hkey, hkeys⟩ := List.forall_mem_cons.mp hkeys
    obtain ⟨hf, hrest⟩ := List.forall_mem_cons.mp h
    have hcolon : OneLine (f.1 ++ ": ") := oneLine_append_iff.mpr ⟨hkey, by decide⟩
    exact List.forall_mem_cons.mpr ⟨oneLine_append_iff.mpr ⟨hcolon, hf⟩, ih hkeys hrest⟩

theorem oneLine_objectText (required : Bool) {fields : List String}
    (h : ∀ text ∈ fields, OneLine text) : OneLine (objectText required fields) := by
  have hbody : OneLine ("\x7b " ++ ", ".intercalate fields ++ " \x7d") :=
    oneLine_joined (by decide) (by decide) (by decide) h
  cases required with
  | true => exact hbody
  | false => exact oneLine_enclosed (by decide) (by decide) hbody

theorem oneLine_name_of_parts (hs : s.spelledOnOneLine = true)
    (hparts : ∀ part ∈ s.parts, OneLine part.name) : OneLine s.name := by
  have htexts : ∀ text ∈ s.ownTexts, OneLine text := of_decide_eq_true hs
  have hlabel : ∀ text ∈ s.label?.toList, OneLine text := fun text h =>
    htexts text (List.mem_append_left _ (List.mem_append_left _ h))
  have hkeys : ∀ key ∈ s.fieldKeys, OneLine key := fun key h =>
    htexts key (List.mem_append_left _ (List.mem_append_right _ h))
  have hconstant : ∀ text ∈ s.constantTexts, OneLine text := fun text h =>
    htexts text (List.mem_append_right _ h)
  cases s with
  | primitive p => cases p <;> decide
  | literal c label =>
    refine oneLine_labelled hlabel (oneLine_constantName ?_)
    rintro text rfl
    exact hconstant text List.mem_cons_self
  | tuple items label =>
    rw [name]
    have hnames : ∀ text ∈ names items, OneLine text := oneLine_names hparts
    exact oneLine_labelled hlabel (oneLine_joined (by decide) (by decide) (by decide) hnames)
  | array nonEmpty item label =>
    rw [name]
    have hitem : OneLine item.name := hparts item List.mem_cons_self
    refine oneLine_labelled hlabel (oneLine_enclosed ?_ (by decide) hitem)
    cases nonEmpty <;> decide
  | dictionary key value label =>
    rw [name]
    have hkey : OneLine key.name := hparts key List.mem_cons_self
    have hvalue : OneLine value.name := hparts value (List.mem_cons_of_mem _ List.mem_cons_self)
    refine oneLine_labelled hlabel (oneLine_enclosed ?_ (by decide) hvalue)
    exact oneLine_enclosed (by decide) (by decide) hkey
  | object required fields label =>
    rw [name]
    refine oneLine_labelled hlabel (oneLine_objectText required (oneLine_fieldNames ?_ ?_))
    · exact fun f hf => hkeys f.1 (List.mem_map_of_mem hf)
    · exact fun f hf => hparts f.2 (List.mem_map_of_mem hf)
  | union alternatives label =>
    rw [name]
    have hnames : ∀ text ∈ names alternatives, OneLine text := oneLine_names hparts
    exact oneLine_labelled hlabel (oneLine_joined (by decide) (by decide) (by decide) hnames)
  | intersection members label =>
    rw [name]
    have hnames : ∀ text ∈ names members, OneLine text := oneLine_names hparts
    exact oneLine_labelled hlabel (oneLine_joined (by decide) (by decide) (by decide) hnames)

theorem namedOnOneLine_of_parts (hs : s.throughout spelledOnOneLine = true)
    (hparts : ∀ part ∈ s.parts, part.throughout namedOnOneLine = true) :
    s.throughout namedOnOneLine = true := by
  have hown : s.spelledOnOneLine = true := (throughout_iff.mp hs).1
  have hname : OneLine s.name :=
    oneLine_name_of_parts hown fun part hpart => oneLine_name (hparts part hpart)
  have hkeys : ∀ key ∈ s.fieldKeys, OneLine key := fun key h =>
    of_decide_eq_true hown key (List.mem_append_left _ (List.mem_append_right _ h))
  exact throughout_iff.mpr ⟨decide_eq_true ⟨hname, hkeys⟩, hparts⟩

theorem throughout_namedOnOneLine (hs : s.throughout spelledOnOneLine = true) :
    s.throughout namedOnOneLine = true := by
  induction s using ofParts with
  | h s ih => exact namedOnOneLine_of_parts hs fun part h => ih part h (throughout_part hs h)

end Schema

end GeoSchema
