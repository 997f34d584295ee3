import GeoSchema.Value.Basic
import Mathlib.Tactic.Common

/-!
# Shapes of values

Which values are sequences, dictionaries and objects, said without the functions that take them
apart.
-/

namespace GeoSchema.Value

def object (members : List (String × Value)) : Value :=
  .dict (members.map fun m => (.text m.1, m.2))

theorem elements?_eq_some_iff {v : Value} {elements : List Value} :
    v.elements? = some elements ↔ v = .list elements ∨ v = .tuple elements := by
  cases v <;> simp [elements?]

theorem entries?_eq_some_iff {v : Value} {entries : List (Value × Value)} :
    v.entries? = some entries ↔ v = .dict entries := by
  cases v <;> simp [entries?]

theorem named?_eq_some_iff {entries : List (Value × Value)} {members : List (String × Value)} :
    named? entries = some members ↔ entries = members.map fun m => (.text m.1, m.2) := by
  induction entries generalizing members with
  | nil => cases members <;> simp [named?]
  | cons e rest ih =>
    obtain ⟨key, v⟩ := e
    cases key with
    | text key =>
      rw [named?, Option.map_eq_some_iff]
      constructor
      · rintro ⟨tail, htail, rfl⟩
        rw [List.map_cons, ← ih.mp htail]
      · intro h
        cases members with
        | nil => exact absurd h (List.cons_ne_nil _ _)
        | cons m tail =>
          rw [List.map_cons, List.cons.injEq, Prod.mk.injEq, Value.text.injEq] at h
          obtain ⟨⟨rfl, rfl⟩, htail⟩ := h
          exact ⟨tail, ih.mpr htail, rfl⟩
    | _ => cases members <;> simp [named?]

theorem named?_eq_none_iff {entries : List (Value × Value)} :
    named? entries = none ↔ ∃ e ∈ entries, ∀ name, e.1 ≠ .text name := by
  induction entries with
  | nil => simp [named?]
  | cons e rest ih =>
    obtain ⟨key, v⟩ := e
    cases key <;> simp [named?, ih]

theorem members?_eq_some_iff {v : Value} {members : List (String × Value)} :
    v.members? = some members ↔ v = .object members := by
  cases v with
  | dict entries => rw [members?, named?_eq_some_iff, object, Value.dict.injEq]
  | _ => simp [members?, object]

theorem members?_eq_none_iff {v : Value} :
    v.members? = none ↔ v.entries? = none ∨
      ∃ entries, v.entries? = some entries ∧ ∃ e ∈ entries, ∀ name, e.1 ≠ .text name := by
  cases v with
  | dict entries =>
    rw [members?, named?_eq_none_iff]
    simp [entries?]
  | _ => simp [members?, entries?]

/-! ## Members of objects -/

variable {v : Value} {members : List (String × Value)} {name : String}

theorem entry_of_mem_members (hv : v.members? = some members) :
    ∃ entries, v.entries? = some entries ∧ ∀ x, (name, x) ∈ members → (.text name, x) ∈ entries := by
  refine ⟨_, entries?_eq_some_iff.mpr (members?_eq_some_iff.mp hv), ?_⟩
  intro x hx
  exact List.mem_map.mpr ⟨(name, x), hx, rfl⟩

theorem mem_of_lookup_eq_some {α : Type} {entries : List (String × α)} {x : α}
    (h : entries.lookup name = some x) : (name, x) ∈ entries := by
  obtain ⟨earlier, later, rfl, _⟩ := List.lookup_eq_some_iff.mp h
  exact List.mem_append_right _ List.mem_cons_self

theorem not_mem_of_lookup_eq_none (h : members.lookup name = none) (x : Value) :
    (name, x) ∉ members := by
  intro hx
  have hne := List.lookup_eq_none_iff.mp h _ hx
  simp at hne

end GeoSchema.Value
