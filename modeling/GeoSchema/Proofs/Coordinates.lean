import GeoSchema.Proofs.Language
import GeoSchema.Proofs.Tags

/-!
# Levels of coordinates

The alternatives of coordinates bear no tags: they are positions, and one, two and three levels of
arrays over positions. A number anywhere in a value tells its level. Only a value made of empty
sequences is of several levels, all those from its depth on.
-/

namespace GeoSchema

/-! ## Numbers and depth -/

namespace Value

mutual

/-- There is a number at some depth. -/
def holdsNumber : Value → Bool
  | .int _ | .float _ => true
  | .list items | .tuple items => anyHoldsNumber items
  | .dict entries => entriesHoldNumber entries
  | _ => false

def anyHoldsNumber : List Value → Bool
  | [] => false
  | v :: rest => holdsNumber v || anyHoldsNumber rest

def entriesHoldNumber : List (Value × Value) → Bool
  | [] => false
  | (k, v) :: rest => holdsNumber k || holdsNumber v || entriesHoldNumber rest

end

mutual

/-- How deep sequences are nested. An empty one has depth 1. -/
def depth : Value → Nat
  | .list items | .tuple items => deepest items + 1
  | _ => 0

def deepest : List Value → Nat
  | [] => 0
  | v :: rest => max (depth v) (deepest rest)

end

variable {v : Value} {elements : List Value}

theorem anyHoldsNumber_iff : anyHoldsNumber elements = true ↔ ∃ e ∈ elements, e.holdsNumber = true := by
  induction elements with
  | nil => simp [anyHoldsNumber]
  | cons e rest ih => simp [anyHoldsNumber, ih]

theorem holdsNumber_sequence (hv : v.elements? = some elements) :
    v.holdsNumber = true ↔ ∃ e ∈ elements, e.holdsNumber = true := by
  rw [← anyHoldsNumber_iff]
  rcases elements?_eq_some_iff.mp hv with rfl | rfl <;> simp only [holdsNumber]

theorem holdsNumber_of_isNumber (h : v.IsNumber) : v.holdsNumber = true := by
  rcases h with ⟨n, rfl⟩ | ⟨x, rfl⟩ <;> simp only [holdsNumber]

theorem deepest_le_iff {n : Nat} : deepest elements ≤ n ↔ ∀ e ∈ elements, e.depth ≤ n := by
  induction elements with
  | nil => simp [deepest]
  | cons e rest ih =>
    rw [deepest, List.forall_mem_cons, ← ih]
    omega

theorem depth_sequence_le_iff (hv : v.elements? = some elements) {n : Nat} :
    v.depth ≤ n + 1 ↔ ∀ e ∈ elements, e.depth ≤ n := by
  rw [← deepest_le_iff]
  rcases elements?_eq_some_iff.mp hv with rfl | rfl <;> (rw [depth]; omega)

theorem depth_sequence_pos (hv : v.elements? = some elements) : 0 < v.depth := by
  rcases elements?_eq_some_iff.mp hv with rfl | rfl <;> (rw [depth]; omega)

end Value

/-! ## The alternative that a union settles on -/

namespace Schema

variable {alternatives : List Schema} {label : Option String} {v : Value} {n : Nat} {a : Schema}

def acceptsAt : Schema → Nat → Value → Bool
  | .union alternatives _, n, v => alternatives[n]?.any (·.accepts v)
  | _, _, _ => false

theorem alternative?_of_first (ha : alternatives[n]? = some a) (haccepts : a.accepts v)
    (hfirst : ∀ m < n, (union alternatives label).acceptsAt m v = false) :
    (union alternatives label).alternative? v = some (n, a) := by
  rw [alternative?, firstAccepting]
  have hfound : (alternatives.zipIdx).find? (·.1.accepts v) = some (a, n) := by
    rw [List.find?_eq_some_iff_getElem]
    obtain ⟨hn, rfl⟩ := List.getElem?_eq_some_iff.mp ha
    refine ⟨haccepts, n, by simpa using hn, by simp, ?_⟩
    intro m hm
    have hm' := hfirst m hm
    simp only [acceptsAt, List.getElem?_eq_getElem (hm.trans hn), Option.any_some] at hm'
    simp [hm']
  rw [hfound]
  rfl

end Schema

/-! ## Levels -/

namespace Grammar

open Schema Value

variable {v : Value} {m n : Nat}

/-- Positions under as many levels of arrays. -/
def level : Nat → Schema
  | 0 => position
  | n + 1 => array (level n)

def levels : List Schema := (List.range 4).map level

theorem coordinates_eq_union : coordinates = .union levels "CoordinatesIO" := rfl

theorem accepts_level_succ :
    (level (n + 1)).accepts v ↔
      ∃ elements, v.elements? = some elements ∧ ∀ e ∈ elements, (level n).accepts e := by
  rw [level, array, accepts_array]
  simp

theorem elements_of_accepts_position (h : position.accepts v) :
    ∃ x y, v.elements? = some [x, y] ∧ x.IsNumber ∧ y.IsNumber := by
  obtain ⟨x, y, hv, hx, hy⟩ := (recognizes_position v).mp h
  exact ⟨x, y, elements?_eq_some_iff.mpr hv, hx, hy⟩

theorem holdsNumber_of_accepts_position (h : position.accepts v) : v.holdsNumber = true := by
  obtain ⟨x, y, hv, hx, _⟩ := elements_of_accepts_position h
  exact (holdsNumber_sequence hv).mpr ⟨x, List.mem_cons_self, holdsNumber_of_isNumber hx⟩

theorem not_accepts_level_of_isNumber (h : v.IsNumber) : ¬ (level n).accepts v := by
  have hnone : v.elements? = none := by
    rcases h with ⟨_, rfl⟩ | ⟨_, rfl⟩ <;> rfl
  intro hlevel
  cases n with
  | zero =>
    obtain ⟨x, y, hv, _⟩ := elements_of_accepts_position hlevel
    simp [hnone] at hv
  | succ n =>
    obtain ⟨elements, hv, _⟩ := accepts_level_succ.mp hlevel
    simp [hnone] at hv

theorem not_accepts_array_of_accepts_position (h : position.accepts v) :
    ¬ (level (n + 1)).accepts v := by
  obtain ⟨x, y, hv, hx, _⟩ := elements_of_accepts_position h
  intro hlevel
  obtain ⟨elements, helements, hall⟩ := accepts_level_succ.mp hlevel
  rw [hv, Option.some.injEq] at helements
  subst helements
  exact not_accepts_level_of_isNumber hx (hall x List.mem_cons_self)

theorem level_unique (hm : (level m).accepts v) (hn : (level n).accepts v)
    (h : v.holdsNumber = true) : m = n := by
  induction m generalizing n v with
  | zero =>
    cases n with
    | zero => rfl
    | succ n => exact absurd hn (not_accepts_array_of_accepts_position hm)
  | succ m ih =>
    cases n with
    | zero => exact absurd hm (not_accepts_array_of_accepts_position hn)
    | succ n =>
      obtain ⟨elements, hv, hitems⟩ := accepts_level_succ.mp hm
      obtain ⟨elements', hv', hitems'⟩ := accepts_level_succ.mp hn
      obtain rfl : elements = elements' := Option.some.inj (hv.symm.trans hv')
      -- An element with a number in it is of one level only.
      obtain ⟨e, he, hnumber⟩ := (holdsNumber_sequence hv).mp h
      rw [ih (hitems e he) (hitems' e he) hnumber]

theorem hollow_elements {elements : List Value} (hv : v.elements? = some elements)
    (h : v.holdsNumber = false) : ∀ e ∈ elements, e.holdsNumber = false := by
  intro e he
  rw [← Bool.not_eq_true] at h ⊢
  exact fun hnumber => h ((holdsNumber_sequence hv).mpr ⟨e, he, hnumber⟩)

theorem not_accepts_position_of_hollow (h : v.holdsNumber = false) : ¬ position.accepts v := by
  intro hposition
  simp [holdsNumber_of_accepts_position hposition] at h

theorem depth_le_of_accepts_level (hn : (level n).accepts v) (h : v.holdsNumber = false) :
    v.depth ≤ n := by
  induction n generalizing v with
  | zero => exact absurd hn (not_accepts_position_of_hollow h)
  | succ n ih =>
    obtain ⟨elements, hv, hitems⟩ := accepts_level_succ.mp hn
    rw [depth_sequence_le_iff hv]
    intro e he
    exact ih (hitems e he) (hollow_elements hv h e he)

theorem accepts_level_of_depth_le (hm : (level m).accepts v) (h : v.holdsNumber = false)
    (hdepth : v.depth ≤ n) : (level n).accepts v := by
  induction m generalizing n v with
  | zero => exact absurd hm (not_accepts_position_of_hollow h)
  | succ m ih =>
    obtain ⟨elements, hv, hitems⟩ := accepts_level_succ.mp hm
    have hpos := depth_sequence_pos hv
    obtain ⟨n, rfl⟩ : ∃ k, n = k + 1 := ⟨n - 1, by omega⟩
    rw [depth_sequence_le_iff hv] at hdepth
    refine accepts_level_succ.mpr ⟨elements, hv, ?_⟩
    intro e he
    exact ih (hitems e he) (hollow_elements hv h e he) (hdepth e he)

/-! ## Alternatives of coordinates -/

theorem levels_getElem?_eq_some_iff {a : Schema} : levels[n]? = some a ↔ n < 4 ∧ level n = a := by
  unfold levels
  by_cases hn : n < 4
  · simp [hn]
  · simp [hn]

theorem acceptsAt_coordinates : coordinates.acceptsAt n v = true ↔ n < 4 ∧ (level n).accepts v := by
  rw [coordinates_eq_union, acceptsAt, Option.any_eq_true]
  simp only [levels_getElem?_eq_some_iff]
  grind

theorem accepts_coordinates : coordinates.accepts v ↔ ∃ n < 4, (level n).accepts v := by
  rw [coordinates_eq_union, accepts_union]
  unfold levels
  simp

theorem alternative?_coordinates (hn : n < 4) (h : (level n).accepts v)
    (hfirst : ∀ m < n, ¬ (level m).accepts v) : coordinates.alternative? v = some (n, level n) := by
  have hfirst' : ∀ m < n, coordinates.acceptsAt m v = false := by
    intro m hm
    rw [← Bool.not_eq_true, acceptsAt_coordinates]
    exact fun hat => hfirst m hm hat.2
  exact alternative?_of_first (levels_getElem?_eq_some_iff.mpr ⟨hn, rfl⟩) h hfirst'

theorem levels_unique (h : v.holdsNumber = true) :
    ∀ a ∈ levels, ∀ b ∈ levels, a.accepts v → b.accepts v → a = b := by
  unfold levels
  intro a ha b hb haccepts hbaccepts
  obtain ⟨m, _, rfl⟩ := List.mem_map.mp ha
  obtain ⟨n, _, rfl⟩ := List.mem_map.mp hb
  rw [level_unique haccepts hbaccepts h]

/-- Only a value without numbers fits several levels, and the first of them is taken. -/
theorem coordinates_ambiguous_only_without_numbers (h : coordinates.accepts v = true) :
    (v.holdsNumber = true →
      (∃! n, coordinates.acceptsAt n v = true) ∧
      ∀ order label, order.Perm levels →
        (Schema.union order label).decider? v = coordinates.decider? v) ∧
    (v.holdsNumber = false →
      (∀ n, coordinates.acceptsAt n v = true ↔ v.depth ≤ n ∧ n < 4) ∧
      coordinates.alternative? v = some (v.depth, level v.depth)) ∧
    (position.accepts v = true →
      (∀ n, coordinates.acceptsAt n v = true ↔ n = 0) ∧
      coordinates.alternative? v = some (0, position)) := by
  obtain ⟨m, hm, hlevel⟩ := accepts_coordinates.mp h
  refine ⟨fun hnumber => ⟨⟨m, ?_, ?_⟩, ?_⟩, fun hhollow => ⟨fun n => ?_, ?_⟩,
    fun hposition => ⟨fun n => ?_, ?_⟩⟩
  · exact acceptsAt_coordinates.mpr ⟨hm, hlevel⟩
  · intro n hn
    exact level_unique (acceptsAt_coordinates.mp hn).2 hlevel hnumber
  · intro order label horder
    exact decider?_union_perm horder (levels_unique hnumber)
  · rw [acceptsAt_coordinates]
    constructor
    · rintro ⟨hn, haccepts⟩
      exact ⟨depth_le_of_accepts_level haccepts hhollow, hn⟩
    · rintro ⟨hdepth, hn⟩
      exact ⟨hn, accepts_level_of_depth_le hlevel hhollow hdepth⟩
  · have hdepth := depth_le_of_accepts_level hlevel hhollow
    apply alternative?_coordinates (by omega) (accepts_level_of_depth_le hlevel hhollow le_rfl)
    intro k hk haccepts
    have := depth_le_of_accepts_level haccepts hhollow
    omega
  · have hnumber := holdsNumber_of_accepts_position hposition
    rw [acceptsAt_coordinates]
    constructor
    · rintro ⟨_, haccepts⟩
      exact level_unique haccepts (n := 0) hposition hnumber
    · rintro rfl
      exact ⟨by omega, hposition⟩
  · exact alternative?_coordinates (n := 0) (by omega) hposition (by simp)

theorem coordinates_ambiguous_empty_sequences :
    coordinates.accepts (.list [.list [], .tuple []]) = true ∧
    (∀ n, coordinates.acceptsAt n (.list [.list [], .tuple []]) = true ↔ 2 ≤ n ∧ n < 4) ∧
    coordinates.accepts (.list [.tuple [.int 1, .int 2]]) = true ∧
    ∃! n, coordinates.acceptsAt n (.list [.tuple [.int 1, .int 2]]) = true := by
  have hhollow : coordinates.accepts (.list [.list [], .tuple []]) = true := by decide
  have hpositions : coordinates.accepts (.list [.tuple [.int 1, .int 2]]) = true := by decide
  obtain ⟨-, hdepth, -⟩ := coordinates_ambiguous_only_without_numbers hhollow
  obtain ⟨hnumber, -, -⟩ := coordinates_ambiguous_only_without_numbers hpositions
  exact ⟨hhollow, (hdepth (by decide)).1, hpositions, (hnumber (by decide)).1⟩

end Grammar

end GeoSchema
