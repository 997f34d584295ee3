import GeoSchema.Proofs.ReportLines
import Mathlib

/-!
# The text of a path

A path is written with slashes between its steps, and keys stand in it as they are. So it can be read back
exactly if no key has a slash or looks like an integer, and the path is not the one key that is written as
the empty path is. An empty key does no harm. All paths in reports of the grammar are of this kind where
the document has text keys only.
-/

namespace GeoSchema

namespace Text

theorem intercalate_pieces {c : Char} {separator : String} (hseparator : separator.toList = [c])
    (text : String) : separator.intercalate (pieces c text) = text := by
  have hparts : (pieces c text).map String.toList = text.toList.splitOn c := by
    rw [pieces, List.map_map]
    exact List.map_id'' (fun _ => String.toList_ofList) _
  apply String.toList_injective
  rw [String.toList_intercalate, hparts, hseparator]
  exact List.intercalate_splitOn c

theorem not_mem_of_mem_splitOn {c : Char} {s part : List Char} (h : part ∈ s.splitOn c) : c ∉ part := by
  induction s generalizing part with
  | nil =>
    rw [List.splitOn_nil, List.mem_singleton] at h
    simp [h]
  | cons d s ih =>
    obtain ⟨first, rest, hsplit⟩ := List.exists_cons_of_ne_nil (List.splitOn_ne_nil c s)
    rw [List.splitOn_cons_eq_if_modifyHead] at h
    split at h
    · rcases List.mem_cons.mp h with rfl | h
      · simp
      · exact ih h
    · rename_i hne
      have hd : c ≠ d := by
        rintro rfl
        exact hne (beq_self_eq_true c)
      rw [hsplit, List.modifyHead_cons, List.mem_cons] at h
      rw [hsplit] at ih
      rcases h with rfl | h
      · exact List.not_mem_cons_of_ne_of_not_mem hd (ih List.mem_cons_self)
      · exact ih (List.mem_cons_of_mem _ h)

theorem not_mem_of_mem_pieces {c : Char} {text part : String} (h : part ∈ pieces c text) :
    c ∉ part.toList := by
  obtain ⟨s, hs, rfl⟩ := List.mem_map.mp h
  rw [String.toList_ofList]
  exact not_mem_of_mem_splitOn hs

def isWord (text : String) : Bool := text != "" && text.toList.all Char.isAlpha

theorem isWord_iff {text : String} :
    isWord text = true ↔ text ≠ "" ∧ ∀ c ∈ text.toList, c.isAlpha = true := by
  simp [isWord]

theorem not_isAlpha_of_isDigit {c : Char} (h : c.isDigit = true) : c.isAlpha = false := by
  unfold Char.isDigit at h
  unfold Char.isAlpha Char.isUpper Char.isLower
  grind

theorem slash_not_mem_of_isWord {text : String} (h : isWord text = true) : '/' ∉ text.toList := by
  intro hslash
  exact absurd ((isWord_iff.mp h).2 _ hslash) (by decide)

theorem ne_toString_of_isWord {text : String} (h : isWord text = true) (n : Int) : text ≠ toString n := by
  rintro rfl
  obtain ⟨hne, hletters⟩ := isWord_iff.mp h
  obtain ⟨c, hc⟩ := List.exists_mem_of_ne_nil _ (mt String.toList_eq_nil_iff.mp hne)
  have hletter := hletters c hc
  rcases isDigit_or_eq_minus_of_mem_toString hc with hdigit | rfl
  · rw [not_isAlpha_of_isDigit hdigit] at hletter
    cases hletter
  · exact absurd hletter (by decide)

end Text

open Text

/-! ## Steps -/

namespace Segment

/-- An index if an integer is written so, and else a key. -/
def read (text : String) : Segment :=
  match text.toInt? with
  | some n => if toString n = text then .index n else .key text
  | none => .key text

/-- A key that cannot be taken for an index or for several steps. -/
def Plain : Segment → Prop
  | .key name => '/' ∉ name.toList ∧ ∀ n : Int, name ≠ toString n
  | .index _ => True

variable {step : Segment} {text : String}

theorem slash_not_mem_render (h : step.Plain) : '/' ∉ step.render.toList := by
  cases step with
  | key name => exact h.1
  | index n => exact not_mem_toString (by decide) (by decide) n

theorem read_toString (n : Int) : read (toString n) = .index n := by
  unfold read
  rw [show (toString n).toInt? = some n from Int.toInt?_repr n]
  exact if_pos rfl

theorem read_of_ne_toString (h : ∀ n : Int, text ≠ toString n) : read text = .key text := by
  unfold read
  split
  · rename_i n _
    exact if_neg (h n).symm
  · rfl

theorem read_index_or_key (text : String) :
    (∃ n : Int, text = toString n ∧ read text = .index n) ∨
      (∀ n : Int, text ≠ toString n) ∧ read text = .key text := by
  by_cases h : ∃ n : Int, text = toString n
  · obtain ⟨n, rfl⟩ := h
    exact Or.inl ⟨n, rfl, read_toString n⟩
  · have hne : ∀ n : Int, text ≠ toString n := by simpa using h
    exact Or.inr ⟨hne, read_of_ne_toString hne⟩

theorem read_render (h : step.Plain) : read step.render = step := by
  cases step with
  | key name => exact read_of_ne_toString h.2
  | index n => exact read_toString n

theorem render_read (text : String) : (read text).render = text := by
  rcases read_index_or_key text with ⟨n, htext, hread⟩ | ⟨_, hread⟩
  · rw [hread, render, htext]
  · rw [hread, render]

theorem plain_read (h : '/' ∉ text.toList) : (read text).Plain := by
  rcases read_index_or_key text with ⟨n, _, hread⟩ | ⟨hne, hread⟩
  · rw [hread]
    trivial
  · rw [hread]
    exact ⟨h, hne⟩

end Segment

/-! ## Paths -/

namespace Path

def read (text : String) : Path := if text = "<root>" then [] else (pieces '/' text).map Segment.read

/-- All keys are plain, and the path is not written as the empty one is. -/
def Plain (path : Path) : Prop := (∀ step ∈ path, step.Plain) ∧ path ≠ [.key "<root>"]

variable {path : Path}

theorem render_of_ne_nil (hne : path ≠ []) : path.render = "/".intercalate (path.map Segment.render) := by
  cases path with
  | nil => exact absurd rfl hne
  | cons step rest => rfl

theorem pieces_render (hne : path ≠ []) (h : ∀ step ∈ path, step.Plain) :
    pieces '/' path.render = path.map Segment.render := by
  have hslash : ∀ part ∈ path.map Segment.render, '/' ∉ part.toList :=
    List.forall_mem_map.mpr fun step hstep => Segment.slash_not_mem_render (h step hstep)
  rw [render_of_ne_nil hne]
  exact pieces_intercalate (by decide) (by simpa using hne) hslash

theorem render_ne_root (hne : path ≠ []) (h : path.Plain) : path.render ≠ "<root>" := by
  intro hroot
  have hpieces : ["<root>"] = path.map Segment.render := by
    rw [← pieces_render hne h.1, hroot]
    decide
  obtain ⟨step, rfl, hstep⟩ := List.map_eq_singleton_iff.mp hpieces.symm
  cases step with
  | key name => exact h.2 (by rw [← hstep, Segment.render])
  | index n =>
    apply not_mem_toString (c := '<') (by decide) (by decide) n
    rw [show toString n = "<root>" from hstep]
    decide

theorem read_render (h : path.Plain) : read path.render = path := by
  by_cases hne : path = []
  · rw [hne]
    rfl
  · rw [read, if_neg (render_ne_root hne h), pieces_render hne h.1, List.map_map]
    calc path.map (Segment.read ∘ Segment.render)
      _ = path.map id := List.map_congr_left fun step hstep => Segment.read_render (h.1 step hstep)
      _ = path := List.map_id path

theorem render_read (text : String) : (read text).render = text := by
  unfold read
  split
  · rename_i hroot
    rw [hroot, render]
  · have hrender : ((pieces '/' text).map Segment.read).map Segment.render = pieces '/' text := by
      rw [List.map_map]
      exact List.map_id'' Segment.render_read _
    have hne : (pieces '/' text).map Segment.read ≠ [] := by
      simp [pieces]
    rw [render_of_ne_nil hne, hrender]
    exact intercalate_pieces (by decide) text

theorem plain_read (text : String) : (read text).Plain := by
  have hrender := render_read text
  unfold read at hrender ⊢
  split at hrender
  · rename_i hroot
    rw [if_pos hroot]
    exact ⟨by simp, by decide⟩
  · rename_i hroot
    rw [if_neg hroot]
    constructor
    · exact List.forall_mem_map.mpr fun part hpart => Segment.plain_read (not_mem_of_mem_pieces hpart)
    · intro hkey
      rw [hkey] at hrender
      exact hroot hrender.symm

theorem eq_of_render_eq {other : Path} (h : path.Plain) (hother : other.Plain)
    (hsame : path.render = other.render) : path = other := by
  rw [← read_render h, hsame, read_render hother]

-- Keys that are not plain, and other paths that are written alike.
example : Path.render [.key "a/b"] = Path.render [.key "a", .key "b"] := by decide
example : Path.render [.key "-1"] = Path.render [.index (-1)] := by decide

theorem plain_of_words (h : ∀ name, .key name ∈ path → isWord name = true) : path.Plain := by
  constructor
  · intro step hstep
    cases step with
    | key name => exact ⟨slash_not_mem_of_isWord (h name hstep), ne_toString_of_isWord (h name hstep)⟩
    | index n => trivial
  · rintro rfl
    exact absurd (h "<root>" List.mem_cons_self) (by decide)

end Path

/-! ## Documents with text keys only -/

namespace Value

mutual

def textKeyed : Value → Bool
  | .list items | .tuple items => allTextKeyed items
  | .dict entries => entriesTextKeyed entries
  | _ => true

def allTextKeyed : List Value → Bool
  | [] => true
  | v :: rest => textKeyed v && allTextKeyed rest

def entriesTextKeyed : List (Value × Value) → Bool
  | [] => true
  | (.text _, v) :: rest => textKeyed v && entriesTextKeyed rest
  | _ => false

end

variable {v x : Value} {elements : List Value} {entries : List (Value × Value)}

theorem allTextKeyed_iff : allTextKeyed elements = true ↔ ∀ x ∈ elements, x.textKeyed = true := by
  induction elements with
  | nil => simp [allTextKeyed]
  | cons x rest ih => simp [allTextKeyed, ih]

theorem entriesTextKeyed_iff :
    entriesTextKeyed entries = true ↔ ∀ e ∈ entries, (∃ name, e.1 = .text name) ∧ e.2.textKeyed = true := by
  induction entries with
  | nil => simp [entriesTextKeyed]
  | cons e rest ih =>
    obtain ⟨key, x⟩ := e
    cases key <;> simp [entriesTextKeyed, ih]

theorem textKeyed_element (h : v.textKeyed = true) (hv : v.elements? = some elements)
    (hx : x ∈ elements) : x.textKeyed = true := by
  have hall : allTextKeyed elements = true := by
    rcases elements?_eq_some_iff.mp hv with rfl | rfl <;> simpa only [textKeyed] using h
  exact allTextKeyed_iff.mp hall x hx

theorem textKeyed_entry {k : Value} (h : v.textKeyed = true) (hv : v.entries? = some entries)
    (he : (k, x) ∈ entries) : (∃ name, k = .text name) ∧ x.textKeyed = true := by
  rw [entries?_eq_some_iff.mp hv, textKeyed, entriesTextKeyed_iff] at h
  exact h (k, x) he

end Value

namespace Schema

open Issue

variable {s : Schema} {v : Value} {failFast : Bool} {issue : Issue}

theorem textKeyed_of_visits {steps : Path} {S : Schema} {w : Value} (hv : v.textKeyed = true)
    (h : Visits s v steps S w) : w.textKeyed = true := by
  induction h with
  | here s v => exact hv
  | item hitems _ helement _ ih => exact ih (Value.textKeyed_element hv hitems (List.mem_of_getElem? helement))
  | element hitems helement _ ih => exact ih (Value.textKeyed_element hv hitems (List.mem_of_getElem? helement))
  | key hentries he _ ih =>
    obtain ⟨⟨name, rfl⟩, _⟩ := Value.textKeyed_entry hv hentries he
    exact ih rfl
  | content hentries he _ ih => exact ih (Value.textKeyed_entry hv hentries he).2
  | field hentries _ he _ ih => exact ih (Value.textKeyed_entry hv hentries he).2
  | alternative _ _ ih => exact ih hv
  | member _ _ ih => exact ih hv

def declaresWords (s : Schema) : Bool := s.fieldKeys.all isWord

theorem isWord_of_inForest_check (hwords : s.throughout declaresWords = true)
    (hspares : s.throughout sparesTextKeys = true) (hv : v.textKeyed = true)
    (h : issue.InForest (s.check v [] failFast)) {name : String} (hname : .key name ∈ issue.path) :
    isWord name = true := by
  obtain ⟨steps, hpath, hkeys⟩ := traced_of_inForest_check h
  rw [hpath, List.nil_append] at hname
  cases hkeys name hname with
  | declared hmeets hdeclared =>
    have hwords := (throughout_iff.mp (throughout_of_visits hwords hmeets)).1
    exact List.all_eq_true.mp hwords name hdeclared
  | entry hmeets hentries he hrefused hstep =>
    obtain ⟨⟨key, rfl⟩, _⟩ := Value.textKeyed_entry (textKeyed_of_visits hv hmeets) hentries he
    have hrefuses : s.RefusesEntry v key := ⟨_, _, _, _, _, _, _, hmeets, hentries, he, hrefused⟩
    exact absurd hrefuses (not_refusesEntry hspares v key)

theorem catalogue_declaresWords : ∀ entry ∈ Grammar.catalogue, entry.2.throughout declaresWords = true := by
  decide +kernel

theorem plain_path_of_mem_catalogue {entry : String × Schema} (hentry : entry ∈ Grammar.catalogue)
    (hv : v.textKeyed = true) (h : issue.InForest (entry.2.check v [] failFast)) : issue.path.Plain := by
  apply Path.plain_of_words
  intro name hname
  exact isWord_of_inForest_check (catalogue_declaresWords entry hentry)
    (catalogue_sparesTextKeys entry hentry) hv h hname

/-- The text of a path tells the place, in reports by the grammar and for plain paths. -/
theorem places_told_apart_by_text :
    (∀ entry ∈ Grammar.catalogue, ∀ (v : Value) (failFast : Bool), v.textKeyed = true →
      ∀ a b : Issue, a.InForest (entry.2.check v [] failFast) → b.InForest (entry.2.check v [] failFast) →
        a.path.render = b.path.render → a.path = b.path) ∧
    (∀ p q : Path, p.Plain → q.Plain → p.render = q.render → p = q) ∧
    ∀ p : Path, ∃ q : Path, q.Plain ∧ q.render = p.render := by
  refine ⟨?_, ?_, ?_⟩
  · intro entry hentry v failFast hv a b ha hb hsame
    have hplain : a.path.Plain := plain_path_of_mem_catalogue hentry hv ha
    have hplain' : b.path.Plain := plain_path_of_mem_catalogue hentry hv hb
    exact Path.eq_of_render_eq hplain hplain' hsame
  · intro p q hp hq hsame
    exact Path.eq_of_render_eq hp hq hsame
  · intro p
    exact ⟨Path.read p.render, Path.plain_read _, Path.render_read _⟩

theorem places_told_apart_by_text_below_unions :
    let v := Value.object [("type", .text "Line"), ("coordinates", .list [.list [.int 0]])]
    let report := Grammar.geometryObject.check v [] false
    let place : Path := [.key "coordinates", .index 0, .index 0]
    v.textKeyed = true ∧
      (∃ a b : Issue, a.InForest report ∧ b.InForest report ∧ a.expected = "PositionIO" ∧
        b.expected = "NonEmptyArray<PositionIO>" ∧ a.path.render = "coordinates/0/0" ∧
        b.path.render = "coordinates/0/0" ∧ a.path = b.path) ∧
      place.Plain ∧ Path.read "coordinates/0/0" = place ∧
      ∃ q : Path, q.Plain ∧ q.render = Path.render [.key "coordinates/0", .index 0] := by
  intro v report place
  obtain ⟨hforest, hplain, hall⟩ := places_told_apart_by_text
  have hentry : ("GeometryObjectIO", Grammar.geometryObject) ∈ Grammar.catalogue :=
    List.mem_of_getElem? (i := 20) rfl
  have hv : v.textKeyed = true := rfl
  let a : Issue := .refusal place "PositionIO" .shapeMismatch (.int 0)
  let b : Issue := .refusal place "NonEmptyArray<PositionIO>" .shapeMismatch (.int 0)
  have ha : a.InForest report :=
    .cause List.mem_cons_self (.cause List.mem_cons_self (.top (List.mem_of_getElem? (i := 9) rfl)))
  have hb : b.InForest report :=
    .cause List.mem_cons_self (.cause List.mem_cons_self (.top (List.mem_of_getElem? (i := 11) rfl)))
  have hplace : place.Plain := Path.plain_of_words (by simp [place, isWord])
  refine ⟨hv, ⟨a, b, ha, hb, rfl, rfl, rfl, rfl, ?_⟩, hplace, ?_, hall _⟩
  · exact hforest _ hentry v false hv a b ha hb rfl
  · exact hplain _ _ (Path.plain_read _) hplace (Path.render_read _)

end Schema

end GeoSchema
