import GeoSchema.Proofs.Recognition
import GeoSchema.Settings.Variables
import GeoSchema.Value.Key

/-!
# New members

A dictionary takes a content under a text key, in the place of what is there under that key. An object
holds something else under this key afterwards, and the same as before under any other.
-/

namespace GeoSchema

theorem lookup_cons_eq_ite {α : Type} (name other : String) (content : α) (rest : List (String × α)) :
    ((name, content) :: rest).lookup other = if other = name then some content else rest.lookup other := by
  rw [List.lookup_cons]
  by_cases h : other = name
  · simp [h]
  · rw [if_neg h, beq_eq_false_iff_ne.mpr h]

theorem Variables.lookup_set {α : Type} (name other : String) (content : α) (vars : Variables α) :
    (set name content vars).lookup other = if other = name then some content else vars.lookup other := by
  induction vars with
  | nil => exact lookup_cons_eq_ite name other content []
  | cons v rest ih =>
    obtain ⟨n, c⟩ := v
    rw [set, lookup_cons_eq_ite]
    split
    · rename_i hn
      subst hn
      rw [lookup_cons_eq_ite]
      split <;> rfl
    · rename_i hn
      rw [lookup_cons_eq_ite, ih]
      split
      · rename_i hother
        rw [if_neg (hother ▸ hn)]
      · rfl

namespace Value

/-- Values that are no dictionaries stay as they are. -/
def withMember (v : Value) (key : String) (content : Value) : Value :=
  match v with
  | .dict entries => .dict (insertEntry (.text key) content entries)
  | v => v

variable {key : String} {content : Value}

theorem insertEntry_text (members : List (String × Value)) :
    insertEntry (.text key) content (members.map fun m => (.text m.1, m.2)) =
      (Variables.set key content members).map fun m => (.text m.1, m.2) := by
  induction members with
  | nil => rfl
  | cons m rest ih =>
    obtain ⟨name, v⟩ := m
    rw [List.map_cons, insertEntry, Variables.set, ih]
    by_cases hname : name = key <;> simp [sameKey, hname]

theorem withMember_object (members : List (String × Value)) :
    (object members).withMember key content = object (Variables.set key content members) :=
  congrArg Value.dict (insertEntry_text members)

theorem insertEntry_insertEntry (later : Value) (entries : List (Value × Value)) :
    insertEntry (.text key) later (insertEntry (.text key) content entries) =
      insertEntry (.text key) later entries := by
  induction entries with
  | nil => simp [insertEntry, sameKey]
  | cons e rest ih =>
    obtain ⟨k, v⟩ := e
    rw [insertEntry, insertEntry]
    split
    · rename_i hsame
      rw [insertEntry, if_pos hsame]
    · rename_i hother
      rw [insertEntry, if_neg hother, ih]

theorem withMember_withMember (v later : Value) :
    (v.withMember key content).withMember key later = v.withMember key later := by
  cases v with
  | dict entries => exact congrArg Value.dict (insertEntry_insertEntry later entries)
  | _ => rfl

end Value

end GeoSchema
