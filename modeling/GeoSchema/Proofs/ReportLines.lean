import GeoSchema.Grammar
import GeoSchema.Proofs.KeyOrigins
import GeoSchema.Proofs.Leaves

/-!
# Lines of a report

The text of a report is made of the messages of its leaves, with line feeds in between. Values are
escaped in a message, but names and paths stand in it as they are. So a message is one line exactly if no
key in its path has a line feed. Where names have none, such a key can only be a text key in the document,
of an entry that the schema refuses. The schemas of the grammar refuse no entry under a text.
-/

namespace GeoSchema

/-! ## Lines of a text -/

namespace Text

def lines (text : String) : List String := (text.toList.splitOn '\n').map String.ofList

def lineFeeds (text : String) : Nat := text.toList.count '\n'

theorem lineFeeds_eq_zero_iff {text : String} : lineFeeds text = 0 ↔ OneLine text := List.count_eq_zero

theorem lineFeeds_append (s t : String) : lineFeeds (s ++ t) = lineFeeds s + lineFeeds t := by
  unfold lineFeeds
  rw [String.toList_append, List.count_append]

theorem length_splitOn (c : Char) (s : List Char) : (s.splitOn c).length = s.count c + 1 := by
  induction s with
  | nil => rfl
  | cons d s ih =>
    rw [List.splitOn_cons_eq_if_modifyHead, List.count_cons]
    split
    · rw [List.length_cons, ih]
    · rw [List.length_modifyHead, ih, Nat.add_zero]

theorem length_lines (text : String) : (lines text).length = lineFeeds text + 1 := by
  rw [lines, List.length_map, length_splitOn, lineFeeds]

theorem length_lines_intercalate {parts : List String} (hne : parts ≠ []) :
    (lines ("\n".intercalate parts)).length = parts.length + (parts.map lineFeeds).sum := by
  rw [length_lines]
  induction parts with
  | nil => exact absurd rfl hne
  | cons first rest ih =>
    cases rest with
    | nil => simp [Nat.add_comm]
    | cons second later =>
      have hrest := ih (List.cons_ne_nil _ _)
      have hbetween : lineFeeds "\n" = 1 := by decide
      rw [String.intercalate_cons_cons, lineFeeds_append, lineFeeds_append, hbetween, List.length_cons,
        List.map_cons, List.sum_cons]
      omega

/-- What stands in between one character. -/
def pieces (c : Char) (text : String) : List String := (text.toList.splitOn c).map String.ofList

theorem pieces_intercalate {c : Char} {separator : String} (hseparator : separator.toList = [c])
    {parts : List String} (hne : parts ≠ []) (h : ∀ part ∈ parts, c ∉ part.toList) :
    pieces c (separator.intercalate parts) = parts := by
  have hsplit : (separator.intercalate parts).toList.splitOn c = parts.map String.toList := by
    rw [String.toList_intercalate, hseparator]
    exact List.splitOn_intercalate c (List.forall_mem_map.mpr h) (by simpa using hne)
  rw [pieces, hsplit, List.map_map]
  exact List.map_id'' (fun _ => String.ofList_toList) parts

theorem lines_intercalate {parts : List String} (hne : parts ≠ []) (h : ∀ part ∈ parts, OneLine part) :
    lines ("\n".intercalate parts) = parts := by
  have hseparator : "\n".toList = ['\n'] := by decide
  exact pieces_intercalate hseparator hne h

end Text

open Text

/-! ## Paths and messages -/

theorem Segment.oneLine_render_iff {step : Segment} :
    OneLine step.render ↔ ∀ key, step = .key key → OneLine key := by
  cases step with
  | key name => simp [Segment.render]
  | index n => simpa [Segment.render] using oneLine_toString n

theorem Path.oneLine_render_iff {path : Path} :
    OneLine path.render ↔ ∀ key, .key key ∈ path → OneLine key := by
  have hsteps : OneLine path.render ↔ ∀ step ∈ path, OneLine step.render := by
    cases path with
    | nil => simp [Path.render]; decide
    | cons step rest =>
      rw [Path.render, oneLine_intercalate_iff (by decide), List.forall_mem_map]
      simp
  simp only [hsteps, Segment.oneLine_render_iff]
  exact ⟨fun h key hkey => h _ hkey key rfl, fun h step hstep key hkey => h key (hkey ▸ hstep)⟩

theorem Segment.text_or_oneLine_of_ofKey {k : Value} {name : String} (h : Segment.ofKey k = .key name) :
    k = .text name ∨ OneLine name := by
  unfold Segment.ofKey at h
  split at h
  · cases h
    exact Or.inl rfl
  · cases h
  · cases h
    exact Or.inr k.oneLine_render

namespace Issue

theorem lineFeeds_message {issue : Issue} (h : OneLine issue.expected) :
    lineFeeds issue.message = lineFeeds issue.path.render := by
  have hvalue := lineFeeds_eq_zero_iff.mpr issue.value.oneLine_render
  have hexpected := lineFeeds_eq_zero_iff.mpr h
  have hinvalid : lineFeeds "Invalid value " = 0 := by decide
  have hsupplied : lineFeeds " supplied to " = 0 := by decide
  have hmissing : lineFeeds "Missing required field " = 0 := by decide
  have hcolon : lineFeeds ": expected " = 0 := by decide
  unfold message
  split <;> simp only [lineFeeds_append] <;> omega

theorem oneLine_message_iff {issue : Issue} (h : OneLine issue.expected) :
    OneLine issue.message ↔ ∀ key, .key key ∈ issue.path → OneLine key := by
  rw [← lineFeeds_eq_zero_iff, lineFeeds_message h, lineFeeds_eq_zero_iff, Path.oneLine_render_iff]

variable {issues : List Issue}

theorem length_lines_errorText (hne : issues ≠ []) :
    (lines (errorText issues)).length =
      (leavesOf issues).length + ((messages issues).map lineFeeds).sum := by
  have hmessages := messages_ne_nil hne
  rw [(errorText_of_ne_nil hne).1, length_lines_intercalate hmessages, messages, List.length_map]

theorem lines_errorText (hne : issues ≠ []) (h : ∀ leaf ∈ leavesOf issues, OneLine leaf.message) :
    lines (errorText issues) = messages issues := by
  rw [(errorText_of_ne_nil hne).1]
  exact lines_intercalate (messages_ne_nil hne) (List.forall_mem_map.mpr h)

end Issue

namespace Schema

open Issue

variable {s : Schema} {v : Value} {path : Path} {failFast : Bool} {issue : Issue}

/-! ## What stands in a message -/

/-- The schema meets a dictionary and refuses the entry under this text. -/
def RefusesEntry (s : Schema) (v : Value) (name : String) : Prop :=
  ∃ steps key value label w entries x, Visits s v steps (.dictionary key value label) w ∧
    w.entries? = some entries ∧ (.text name, x) ∈ entries ∧
    (key.accepts (.text name) = false ∨ value.accepts x = false)

/-- On one line, but for the texts among the keys of refused entries. -/
def OneLineUpToKeys (s : Schema) (v : Value) (path : Path) (issue : Issue) : Prop :=
  OneLine issue.expected ∧ ∃ steps, issue.path = path ++ steps ∧
    ∀ name, .key name ∈ steps → OneLine name ∨ s.RefusesEntry v name

theorem throughout_of_visits {test : Schema → Bool} {steps : Path} {S : Schema} {w : Value}
    (hs : s.throughout test = true) (h : Visits s v steps S w) : S.throughout test = true := by
  induction h with
  | here s v => exact hs
  | item _ hitem _ _ ih => exact ih (throughout_part hs (List.mem_of_getElem? hitem))
  | element _ _ _ ih => exact ih (throughout_part hs List.mem_cons_self)
  | key _ _ _ ih => exact ih (throughout_part hs List.mem_cons_self)
  | content _ _ _ ih => exact ih (throughout_part hs (List.mem_cons_of_mem _ List.mem_cons_self))
  | field _ hfield _ _ ih => exact ih (throughout_part hs (List.mem_map_of_mem hfield))
  | alternative ha _ ih => exact ih (throughout_part hs ha)
  | member hm _ ih => exact ih (throughout_part hs hm)

theorem oneLine_expected_of_inForest_check (hs : s.throughout namedOnOneLine = true)
    (h : issue.InForest (s.check v path failFast)) : OneLine issue.expected := by
  have hname : ∀ {s : Schema}, s.namedOnOneLine = true → OneLine s.name := fun hs => (of_decide_eq_true hs).1
  apply forall_inForest_check (P := fun issue => OneLine issue.expected) _ _ _ hs h
  · intro s v kind path hs _
    exact hname hs
  · intro field path hfield
    exact hname hfield
  · intro alternatives v path label hs _
    exact hname hs

theorem oneLineUpToKeys_of_inForest_check (hs : s.throughout namedOnOneLine = true)
    (h : issue.InForest (s.check v path failFast)) : OneLineUpToKeys s v path issue := by
  obtain ⟨steps, hpath, hkeys⟩ := traced_of_inForest_check h
  refine ⟨oneLine_expected_of_inForest_check hs h, steps, hpath, fun name hname => ?_⟩
  cases hkeys name hname with
  | declared hmeets hdeclared => exact Or.inl (oneLine_fieldKey (throughout_of_visits hs hmeets) hdeclared)
  | entry hmeets hentries he hrefused hstep =>
    rcases Segment.text_or_oneLine_of_ofKey hstep with rfl | hline
    · exact Or.inr ⟨_, _, _, _, _, _, _, hmeets, hentries, he, hrefused⟩
    · exact Or.inl hline

/-! ## Lines and leaves -/

theorem oneLineUpToKeys_of_mem_leaves (hs : s.throughout namedOnOneLine = true) {leaf : Issue}
    (h : leaf ∈ leavesOf (s.check v [] failFast)) :
    OneLine leaf.expected ∧ ∀ name, .key name ∈ leaf.path → OneLine name ∨ s.RefusesEntry v name := by
  obtain ⟨hexpected, steps, hpath, hsteps⟩ := oneLineUpToKeys_of_inForest_check hs (mem_leavesOf_iff.mp h).1
  rw [List.nil_append] at hpath
  rw [hpath]
  exact ⟨hexpected, hsteps⟩

theorem oneLine_message_of_mem_leaves (hs : s.throughout namedOnOneLine = true)
    (hkeys : ∀ name, s.RefusesEntry v name → OneLine name) {leaf : Issue}
    (h : leaf ∈ leavesOf (s.check v [] failFast)) : OneLine leaf.message := by
  obtain ⟨hexpected, hsteps⟩ := oneLineUpToKeys_of_mem_leaves hs h
  rw [oneLine_message_iff hexpected]
  exact fun name hname => (hsteps name hname).elim id (hkeys name)

/-- A report has a line for each leaf, and one more for each line feed in a path. -/
theorem report_lines_count_leaves (hs : s.throughout namedOnOneLine = true) (v : Value) (failFast : Bool) :
    let report := s.check v [] failFast
    (∀ leaf ∈ leavesOf report,
      (OneLine leaf.message ↔ ∀ name, .key name ∈ leaf.path → OneLine name) ∧
        ∀ name, .key name ∈ leaf.path → OneLine name ∨ s.RefusesEntry v name) ∧
    (report ≠ [] → (lines (errorText report)).length =
      (leavesOf report).length + ((leavesOf report).map fun leaf => lineFeeds leaf.path.render).sum) ∧
    ((∀ name, s.RefusesEntry v name → OneLine name) →
      (∀ message ∈ messages report, OneLine message) ∧
        (report ≠ [] → lines (errorText report) = messages report)) := by
  intro report
  refine ⟨?_, ?_, ?_⟩
  · intro leaf hleaf
    obtain ⟨hexpected, hsteps⟩ := oneLineUpToKeys_of_mem_leaves hs hleaf
    exact ⟨oneLine_message_iff hexpected, hsteps⟩
  · intro hne
    have hfeeds : ∀ leaf ∈ leavesOf report, lineFeeds leaf.message = lineFeeds leaf.path.render := by
      intro leaf hleaf
      exact lineFeeds_message (oneLineUpToKeys_of_mem_leaves hs hleaf).1
    rw [length_lines_errorText hne, messages, List.map_map]
    exact congrArg _ (congrArg _ (List.map_congr_left hfeeds))
  · intro hkeys
    have hlines : ∀ leaf ∈ leavesOf report, OneLine leaf.message := by
      intro leaf hleaf
      exact oneLine_message_of_mem_leaves hs hkeys hleaf
    exact ⟨List.forall_mem_map.mpr hlines, fun hne => lines_errorText hne hlines⟩

theorem report_lines_count_leaves_beside_broken_key :
    let s := Grammar.array (.dictionary Grammar.text Grammar.number none)
    let v := Value.list [.dict [(.text "a\nb", .null), (.text "c", .text "\n")]]
    let report := s.check v [] false
    s.throughout namedOnOneLine = true ∧ (leavesOf report).length = 2 ∧
      (lines (errorText report)).length = 3 ∧ s.RefusesEntry v "a\nb" := by
  intro s v report
  have hs : s.throughout namedOnOneLine = true := by decide +kernel
  obtain ⟨hleaves, hcount, -⟩ := report_lines_count_leaves hs v false
  have hkey := (hleaves (.refusal [.index 0, .key "a\nb"] "number" .shapeMismatch .null)
    List.mem_cons_self).2 "a\nb" (List.mem_cons_of_mem _ List.mem_cons_self)
  exact ⟨hs, rfl, (hcount (List.cons_ne_nil _ _)).trans rfl, hkey.resolve_left (by decide)⟩

/-- A line feed in a text key breaks the message of the one leaf under it. -/
theorem message_broken_by_text_key :
    let s := Schema.dictionary Grammar.text Grammar.number none
    let report := s.check (.dict [(.text "a\nb", .null)]) [] false
    s.throughout namedOnOneLine = true ∧
      messages report = ["Invalid value None supplied to a\nb: expected number"] ∧
      (¬ ∀ message ∈ messages report, OneLine message) ∧
      (leavesOf report).length = 1 ∧ (lines (errorText report)).length = 2 := by
  decide +kernel

/-! ## The grammar -/

/-- No entry under a text is refused. -/
def sparesTextKeys : Schema → Bool
  | .dictionary (.primitive .text) (.primitive .any) _ => true
  | .dictionary _ _ _ => false
  | _ => true

theorem not_refusesEntry (hs : s.throughout sparesTextKeys = true) (v : Value) (name : String) :
    ¬ s.RefusesEntry v name := by
  rintro ⟨steps, key, value, label, w, entries, x, hvisits, -, -, hrefused⟩
  have hspares := (throughout_iff.mp (throughout_of_visits hs hvisits)).1
  unfold sparesTextKeys at hspares
  split at hspares
  · rename_i heq
    cases heq
    rcases hrefused with hkey | hvalue
    · cases hkey
    · cases hvalue
  · cases hspares
  · rename_i hother
    exact hother _ _ _ rfl

theorem catalogue_namedOnOneLine :
    ∀ entry ∈ Grammar.catalogue, entry.2.throughout namedOnOneLine = true := by
  have hspelled : ∀ entry ∈ Grammar.catalogue, entry.2.throughout spelledOnOneLine = true := by
    decide +kernel
  exact fun entry hentry => throughout_namedOnOneLine (hspelled entry hentry)

theorem catalogue_sparesTextKeys :
    ∀ entry ∈ Grammar.catalogue, entry.2.throughout sparesTextKeys = true := by
  decide +kernel

/-- The only dictionaries of the grammar take anything under a text. -/
theorem catalogue_lines_eq_messages {entry : String × Schema} (hentry : entry ∈ Grammar.catalogue) (v : Value)
    (failFast : Bool) (hne : entry.2.check v [] failFast ≠ []) :
    lines (errorText (entry.2.check v [] failFast)) = messages (entry.2.check v [] failFast) := by
  refine lines_errorText hne fun leaf hleaf => ?_
  refine oneLine_message_of_mem_leaves (catalogue_namedOnOneLine entry hentry) (fun name hname => ?_) hleaf
  exact absurd hname (not_refusesEntry (catalogue_sparesTextKeys entry hentry) v name)

end Schema

end GeoSchema
