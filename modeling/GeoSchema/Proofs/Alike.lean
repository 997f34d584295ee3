import GeoSchema.Proofs.Gather
import Mathlib.Data.List.Forall2

/-!
# Values that are represented differently

Two values are alike if they differ only in which of their sequences are lists and which are tuples,
and in the order of the entries in their dictionaries.
-/

namespace GeoSchema

/-! ## Alike values -/

namespace Value

/-- The same but for the kinds of sequences and the order of entries. -/
inductive Alike : Value → Value → Prop where
  | scalar {v} (hsequence : v.elements? = none) (hdictionary : v.entries? = none) : Alike v v
  | sequence {v w elements others} (hv : v.elements? = some elements) (hw : w.elements? = some others)
    (h : List.Forall₂ Alike elements others) : Alike v w
  | dictionary {v w entries others} (hv : v.entries? = some entries) (hw : w.entries? = some others)
    (hkeys : ∀ k, (∃ x, (k, x) ∈ entries) ↔ ∃ y, (k, y) ∈ others)
    (h : ∀ k x y, (k, x) ∈ entries → (k, y) ∈ others → Alike x y) : Alike v w

variable {v w : Value}

theorem Alike.symm (h : v.Alike w) : w.Alike v := by
  refine @Alike.rec (fun v w _ => w.Alike v) (fun elements others _ => List.Forall₂ Alike others elements)
    ?_ ?_ ?_ ?_ ?_ v w h
  · intro v hsequence hdictionary
    exact .scalar hsequence hdictionary
  · intro v w elements others hv hw _ ih
    exact .sequence hw hv ih
  · intro v w entries others hv hw hkeys _ ih
    exact .dictionary hw hv (fun k => (hkeys k).symm) fun k x y hx hy => ih k y x hy hx
  · exact .nil
  · intro e o elements others _ _ he helements
    exact .cons he helements

theorem elements?_eq_none_of_entries? {entries : List (Value × Value)}
    (h : v.entries? = some entries) : v.elements? = none := by
  rw [entries?_eq_some_iff.mp h]
  rfl

theorem entries?_eq_none_of_elements? {elements : List Value} (h : v.elements? = some elements) :
    v.entries? = none := by
  rcases elements?_eq_some_iff.mp h with rfl | rfl <;> rfl

namespace Alike

variable {elements : List Value} {entries : List (Value × Value)} {members : List (String × Value)}
  {name : String}

theorem elements?_some (h : v.Alike w) (hv : v.elements? = some elements) :
    ∃ others, w.elements? = some others ∧ List.Forall₂ Alike elements others := by
  cases h with
  | scalar hsequence => simp [hv] at hsequence
  | sequence hv' hw h =>
    obtain rfl := Option.some.inj (hv.symm.trans hv')
    exact ⟨_, hw, h⟩
  | dictionary hv' => simp [elements?_eq_none_of_entries? hv'] at hv

theorem elements?_none (h : v.Alike w) (hv : v.elements? = none) : w.elements? = none := by
  rw [Option.eq_none_iff_forall_ne_some]
  intro others hw
  obtain ⟨elements, helements, _⟩ := h.symm.elements?_some hw
  simp [hv] at helements

theorem entries?_some (h : v.Alike w) (hv : v.entries? = some entries) :
    ∃ others, w.entries? = some others ∧ (∀ k, (∃ x, (k, x) ∈ entries) ↔ ∃ y, (k, y) ∈ others) ∧
      ∀ k x y, (k, x) ∈ entries → (k, y) ∈ others → x.Alike y := by
  cases h with
  | scalar _ hdictionary => simp [hv] at hdictionary
  | sequence hv' => simp [entries?_eq_none_of_elements? hv'] at hv
  | dictionary hv' hw hkeys h =>
    obtain rfl := Option.some.inj (hv.symm.trans hv')
    exact ⟨_, hw, hkeys, h⟩

theorem entries?_none (h : v.Alike w) (hv : v.entries? = none) : w.entries? = none := by
  rw [Option.eq_none_iff_forall_ne_some]
  intro others hw
  obtain ⟨entries, hentries, _⟩ := h.symm.entries?_some hw
  simp [hv] at hentries

theorem exists_lookup_iff : (∃ x, members.lookup name = some x) ↔ ∃ x, (name, x) ∈ members := by
  constructor
  · rintro ⟨x, hx⟩
    exact ⟨x, mem_of_lookup_eq_some hx⟩
  · rintro ⟨x, hx⟩
    rw [← Option.ne_none_iff_exists']
    exact fun hnone => not_mem_of_lookup_eq_none hnone x hx

theorem members?_some (h : v.Alike w) (hv : v.members? = some members) :
    ∃ others, w.members? = some others ∧
      ∀ name, Option.Rel Alike (members.lookup name) (others.lookup name) := by
  have hentries := entries?_eq_some_iff.mpr (members?_eq_some_iff.mp hv)
  obtain ⟨entries, hw, hkeys, hcontents⟩ := h.entries?_some hentries
  cases hothers : w.members? with
  | none =>
    rcases members?_eq_none_iff.mp hothers with hnone | ⟨entries', hw', e, he, hkey⟩
    · simp [hw] at hnone
    · -- The key that is no text would be a key of the first object too.
      obtain rfl := Option.some.inj (hw.symm.trans hw')
      obtain ⟨x, hx⟩ := (hkeys e.1).mpr ⟨e.2, he⟩
      obtain ⟨m, _, hm⟩ := List.mem_map.mp hx
      exact absurd (congrArg Prod.fst hm).symm (hkey m.1)
  | some others =>
    refine ⟨others, rfl, fun name => ?_⟩
    obtain rfl : entries = others.map fun m => (.text m.1, m.2) := by
      have hobject := entries?_eq_some_iff.mpr (members?_eq_some_iff.mp hothers)
      exact Option.some.inj (hw.symm.trans hobject)
    have hmem {fields : List (String × Value)} {x : Value} :
        (.text name, x) ∈ fields.map (fun m => (Value.text m.1, m.2)) ↔ (name, x) ∈ fields := by simp
    have hname := hkeys (.text name)
    simp only [hmem, ← exists_lookup_iff] at hname
    cases hx : members.lookup name with
    | none =>
      have hnone : others.lookup name = none := by
        rw [Option.eq_none_iff_forall_ne_some]
        intro y hy
        obtain ⟨x, hx'⟩ := hname.mpr ⟨y, hy⟩
        simp [hx] at hx'
      rw [hnone]
      exact .none
    | some x =>
      obtain ⟨y, hy⟩ := hname.mp ⟨x, hx⟩
      rw [hy]
      exact .some (hcontents _ x y (hmem.mpr (mem_of_lookup_eq_some hx))
        (hmem.mpr (mem_of_lookup_eq_some hy)))

end Alike

end Value

/-! ## Alike issues -/

namespace Issue

/-- Issues that say the same of alike values. -/
inductive Alike : Issue → Issue → Prop where
  | intro (path expected kind) {v w causes others} (hvalue : v.Alike w)
    (hcauses : List.Forall₂ Alike causes others) :
    Alike ⟨path, expected, kind, v, causes⟩ ⟨path, expected, kind, w, others⟩

def AllAlike : List Issue → List Issue → Prop := List.Forall₂ Alike

variable {issues others : List Issue}

theorem AllAlike.refusal (path : Path) (expected : String) (kind : IssueKind) {v w : Value}
    (h : v.Alike w) : AllAlike [.refusal path expected kind v] [.refusal path expected kind w] :=
  .cons (.intro path expected kind h .nil) .nil

theorem AllAlike.isEmpty_eq (h : AllAlike issues others) : issues.isEmpty = others.isEmpty := by
  cases h <;> rfl

end Issue

/-! ## Loops over lists whose items belong together -/

section

variable {α β γ : Type} {R : β → γ → Prop} {l : List β} {l' : List γ}

theorem forall₂_zipIdx (h : List.Forall₂ R l l') (n : Nat) :
    List.Forall₂ (fun a b => R a.1 b.1 ∧ a.2 = b.2) (l.zipIdx n) (l'.zipIdx n) := by
  induction h generalizing n with
  | nil => exact .nil
  | cons hab _ ih => exact .cons ⟨hab, rfl⟩ (ih (n + 1))

theorem forall₂_zip {S : α × β → α × γ → Prop} {items : List α} (h : List.Forall₂ R l l')
    (hS : ∀ item ∈ items, ∀ b c, R b c → S (item, b) (item, c)) :
    List.Forall₂ S (items.zip l) (items.zip l') := by
  induction h generalizing items with
  | nil => simp
  | cons hab _ ih =>
    cases items with
    | nil => simp
    | cons item rest =>
      obtain ⟨hitem, hrest⟩ := List.forall_mem_cons.mp hS
      exact .cons (hitem _ _ hab) (ih hrest)

theorem forall_mem_of_forall₂ {P : β → Prop} {Q : γ → Prop}
    (h : List.Forall₂ (fun a b => P a → Q b) l l') (hl : ∀ a ∈ l, P a) : ∀ b ∈ l', Q b := by
  induction h with
  | nil => simp
  | cons hab _ ih =>
    obtain ⟨ha, hrest⟩ := List.forall_mem_cons.mp hl
    exact List.forall_mem_cons.mpr ⟨hab ha, ih hrest⟩

theorem gatherUntil_forall₂ {rel : Issue → Issue → Prop} {stop : List Issue → Bool}
    {issuesOf : β → List Issue} {issuesOf' : γ → List Issue}
    (hstop : ∀ {found found'}, List.Forall₂ rel found found' → stop found = stop found')
    (h : List.Forall₂ (fun a b => List.Forall₂ rel (issuesOf a) (issuesOf' b)) l l') :
    List.Forall₂ rel (gatherUntil stop issuesOf l) (gatherUntil stop issuesOf' l') := by
  induction h with
  | nil => exact .nil
  | cons hab _ ih =>
    rw [gatherUntil, gatherUntil, hstop hab]
    split
    · exact hab
    · exact List.rel_append hab ih

end

end GeoSchema
