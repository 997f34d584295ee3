import GeoSchema.Schema.Typed
import Mathlib.Data.List.Induction

/-!
# Merged fields

When fields are merged, one field is left for each key: the first that is required, or else the last.
-/

namespace GeoSchema

namespace Field

variable {α : Type} {f g : Field α} {fields declared : List (Field α)} {key : String}

/-- The first required field under the key, or else the last. -/
def governing? (key : String) (declared : List (Field α)) : Option (Field α) :=
  (declared.find? fun f => f.key == key && f.required).or
    (declared.reverse.find? fun f => f.key == key)

/-! ## One field more -/

theorem mem_of_mem_insert (h : g ∈ insert f fields) : g = f ∨ g ∈ fields := by
  induction fields with
  | nil => simpa [insert] using h
  | cons first rest ih =>
    rw [insert] at h
    split at h
    · rcases List.mem_cons.mp h with rfl | h
      · split
        · exact Or.inr List.mem_cons_self
        · exact Or.inl rfl
      · exact Or.inr (List.mem_cons_of_mem _ h)
    · rcases List.mem_cons.mp h with rfl | h
      · exact Or.inr List.mem_cons_self
      · exact (ih h).imp_right (List.mem_cons_of_mem _)

def DistinctKeys (fields : List (Field α)) : Prop := fields.Pairwise fun f g => f.key ≠ g.key

theorem distinctKeys_insert (h : DistinctKeys fields) : DistinctKeys (insert f fields) := by
  induction fields with
  | nil => exact List.pairwise_singleton _ _
  | cons first rest ih =>
    obtain ⟨hfirst, hrest⟩ := List.pairwise_cons.mp h
    rw [insert]
    split
    · rename_i hkey
      refine List.pairwise_cons.mpr ⟨?_, hrest⟩
      intro g hg
      split
      · exact hfirst g hg
      · rw [← hkey]
        exact hfirst g hg
    · rename_i hkey
      refine List.pairwise_cons.mpr ⟨?_, ih hrest⟩
      intro g hg
      rcases mem_of_mem_insert hg with rfl | hg
      · exact hkey
      · exact hfirst g hg

theorem mem_insert_iff (h : DistinctKeys fields) :
    g ∈ insert f fields ↔
      (g ∈ fields ∧ (g.key = f.key → g.required = true)) ∨
        (g = f ∧ ∀ e ∈ fields, e.key = f.key → e.required = false) := by
  induction fields with
  | nil => simp [insert]
  | cons first rest ih =>
    obtain ⟨hfirst, hrest⟩ := List.pairwise_cons.mp h
    rw [insert, List.forall_mem_cons, List.mem_cons]
    split
    · rename_i hkey
      have hother : ∀ e ∈ rest, e.key ≠ f.key := by
        intro e he
        rw [← hkey]
        exact (hfirst e he).symm
      have hvacant : ∀ e ∈ rest, e.key = f.key → e.required = false :=
        fun e he hsame => absurd hsame (hother e he)
      rw [List.mem_cons]
      cases hrequired : first.required with
      | true => grind
      | false => grind
    · rename_i hkey
      rw [List.mem_cons, ih hrest]
      grind

/-! ## All fields -/

theorem governing?_key (h : governing? key declared = some g) : g.key = key := by
  unfold governing? at h
  rw [Option.or_eq_some_iff] at h
  rcases h with h | ⟨_, h⟩
  · have := List.find?_some h
    simp only [Bool.and_eq_true, beq_iff_eq] at this
    exact this.1
  · simpa using List.find?_some h

theorem required_of_find?_required
    (h : (declared.find? fun f => f.key == key && f.required) = some g) : g.required = true := by
  have hg := List.find?_some h
  simp only [Bool.and_eq_true] at hg
  exact hg.2

theorem governing?_append_singleton :
    governing? key (declared ++ [f]) =
      if f.key = key then some (((governing? key declared).filter (·.required)).getD f)
      else governing? key declared := by
  unfold governing?
  rw [List.find?_append, List.reverse_append, List.reverse_singleton, List.singleton_append,
    List.find?_singleton, List.find?_cons]
  by_cases hkey : f.key = key
  · simp only [hkey, beq_self_eq_true, Bool.true_and, if_true]
    cases hfirst : declared.find? fun f => f.key == key && f.required with
    | some g =>
      have hrequired := required_of_find?_required hfirst
      simp [Option.filter, hrequired]
    | none =>
      -- No field under the key is required, so neither is the last.
      have hlast : ((declared.reverse.find? fun f => f.key == key).filter (·.required)) = none := by
        rw [Option.filter_eq_none_iff]
        intro g hg hrequired
        have hmem := List.mem_reverse.mp (List.mem_of_find?_eq_some hg)
        have hgkey := List.find?_some hg
        have hnone := List.find?_eq_none.mp hfirst g hmem
        simp only [hgkey, hrequired, Bool.and_self, not_true] at hnone
      simp only [Option.none_or, hlast, Option.getD_none]
      cases f.required <;> rfl
  · have hne : (f.key == key) = false := beq_eq_false_iff_ne.mpr hkey
    simp [hkey, hne]

theorem merge_append_singleton : merge fields (declared ++ [f]) = insert f (merge fields declared) := by
  unfold merge
  rw [List.foldl_append]
  rfl

theorem distinctKeys_merge : DistinctKeys (merge [] declared) := by
  induction declared using List.reverseRecOn with
  | nil => exact List.Pairwise.nil
  | append_singleton declared f ih =>
    rw [merge_append_singleton]
    exact distinctKeys_insert ih

/-- The merged fields are those that govern their keys. -/
theorem mem_merge_iff : g ∈ merge [] declared ↔ governing? g.key declared = some g := by
  induction declared using List.reverseRecOn generalizing g with
  | nil => simp [merge, governing?]
  | append_singleton declared f ih =>
    rw [merge_append_singleton, mem_insert_iff distinctKeys_merge, governing?_append_singleton]
    simp only [ih]
    by_cases hkey : f.key = g.key
    · rw [if_pos hkey]
      cases hgoverning : governing? g.key declared with
      | none =>
        have hnone : ∀ e, governing? e.key declared = some e → e.key ≠ f.key := by
          intro e he hsame
          rw [hsame, hkey, hgoverning] at he
          exact absurd he (by simp)
        grind
      | some h =>
        have := governing?_key hgoverning
        grind
    · rw [if_neg hkey]
      grind

theorem mem_declared_of_mem_merge (h : g ∈ merge [] declared) : g ∈ declared := by
  have hgoverning := mem_merge_iff.mp h
  unfold governing? at hgoverning
  rw [Option.or_eq_some_iff] at hgoverning
  rcases hgoverning with h | ⟨_, h⟩
  · exact List.mem_of_find?_eq_some h
  · exact List.mem_reverse.mp (List.mem_of_find?_eq_some h)

theorem required_iff_of_mem_merge (h : f ∈ merge [] declared) :
    f.required = true ↔ ∃ g ∈ declared, g.key = f.key ∧ g.required = true := by
  constructor
  · intro hrequired
    exact ⟨f, mem_declared_of_mem_merge h, rfl, hrequired⟩
  · rintro ⟨g, hg, hkey, hrequired⟩
    have hsome : (declared.find? fun e => e.key == f.key && e.required).isSome := by
      rw [List.find?_isSome]
      exact ⟨g, hg, by simp [hkey, hrequired]⟩
    obtain ⟨first, hfirst⟩ := Option.isSome_iff_exists.mp hsome
    have hgoverning := mem_merge_iff.mp h
    rw [governing?, hfirst, Option.some_or, Option.some.injEq] at hgoverning
    rw [← hgoverning]
    exact required_of_find?_required hfirst

/-! ## Merging what is merged -/

def HasKey (key : String) (fields : List (Field α)) : Prop := ∃ e ∈ fields, e.key = key

theorem hasKey_insert (f : Field α) (h : HasKey key fields) : HasKey key (insert f fields) := by
  unfold HasKey at h ⊢
  induction fields with
  | nil => simp at h
  | cons first rest ih =>
    rw [insert]
    split
    · rename_i hkey
      split
      · exact h
      · simpa [hkey] using h
    · simp only [List.mem_cons, exists_eq_or_imp] at h ⊢
      exact h.imp_right ih

theorem hasKey_insert_self (f : Field α) (fields : List (Field α)) : HasKey f.key (insert f fields) := by
  unfold HasKey
  induction fields with
  | nil => simp [insert]
  | cons first rest ih =>
    rw [insert]
    split
    · rename_i hkey
      refine ⟨_, List.mem_cons_self, ?_⟩
      split
      · exact hkey
      · rfl
    · simp only [List.mem_cons, exists_eq_or_imp]
      exact Or.inr ih

theorem hasKey_merge_iff : HasKey key (merge [] declared) ↔ HasKey key declared := by
  constructor
  · rintro ⟨f, hf, hkey⟩
    exact ⟨f, mem_declared_of_mem_merge hf, hkey⟩
  · rintro ⟨f, hf, rfl⟩
    induction declared using List.reverseRecOn with
    | nil => exact absurd hf List.not_mem_nil
    | append_singleton declared last ih =>
      rw [merge_append_singleton]
      rcases List.mem_append.mp hf with hf | hf
      · exact hasKey_insert last (ih hf)
      · rw [List.mem_singleton.mp hf]
        exact hasKey_insert_self last _

theorem insert_insert_of_eq (h : f.key = g.key) :
    insert f (insert g fields) = insert (if g.required then g else f) fields := by
  induction fields with
  | nil => simp [insert, h]
  | cons first rest ih => grind [insert]

theorem insert_insert_of_ne (h : f.key ≠ g.key) (hmem : HasKey f.key fields) :
    insert f (insert g fields) = insert g (insert f fields) := by
  unfold HasKey at hmem
  induction fields with
  | nil => simp at hmem
  | cons first rest ih =>
    by_cases hkey : first.key = f.key
    · grind [insert]
    · have hrest : ∃ e ∈ rest, e.key = f.key := by simpa [hkey] using hmem
      have := ih hrest
      grind [insert]

theorem insert_merge_of_ne (hmem : HasKey f.key fields) (h : ∀ g ∈ declared, f.key ≠ g.key) :
    insert f (merge fields declared) = merge (insert f fields) declared := by
  unfold merge
  induction declared generalizing fields with
  | nil => rfl
  | cons g rest ih =>
    obtain ⟨hg, hrest⟩ := List.forall_mem_cons.mp h
    rw [List.foldl_cons, List.foldl_cons, ih (hasKey_insert g hmem) hrest, insert_insert_of_ne hg hmem]

theorem merge_cons : merge fields (f :: declared) = merge (insert f fields) declared := rfl

theorem merge_append (more : List (Field α)) :
    merge fields (declared ++ more) = merge (merge fields declared) more := by
  unfold merge
  rw [List.foldl_append]

theorem merge_insert (h : DistinctKeys declared) :
    merge fields (insert f declared) = insert f (merge fields declared) := by
  induction declared generalizing fields with
  | nil => rfl
  | cons g rest ih =>
    obtain ⟨hg, hrest⟩ := List.pairwise_cons.mp h
    rw [insert]
    split
    · rename_i hkey
      have hothers : ∀ e ∈ rest, f.key ≠ e.key := by
        rw [← hkey]
        exact hg
      have hmem : HasKey f.key (insert g fields) := by
        rw [← hkey]
        exact hasKey_insert_self g fields
      rw [merge_cons, merge_cons, insert_merge_of_ne hmem hothers, insert_insert_of_eq hkey.symm]
    · rw [merge_cons, merge_cons, ih hrest]

theorem merge_merge : merge fields (merge [] declared) = merge fields declared := by
  induction declared using List.reverseRecOn with
  | nil => rfl
  | append_singleton declared f ih =>
    rw [merge_append_singleton, merge_append_singleton, merge_insert distinctKeys_merge, ih]

/-! ## Merging and the contents -/

def map {β : Type} (change : α → β) (f : Field α) : Field β := ⟨f.key, f.required, change f.content⟩

theorem insert_map {β : Type} (change : α → β) :
    insert (f.map change) (fields.map (map change)) = (insert f fields).map (map change) := by
  induction fields with
  | nil => rfl
  | cons first rest ih => grind [insert, map]

theorem merge_map {β : Type} (change : α → β) :
    merge (fields.map (map change)) (declared.map (map change)) =
      (merge fields declared).map (map change) := by
  induction declared generalizing fields with
  | nil => rfl
  | cons f rest ih => rw [List.map_cons, merge_cons, merge_cons, insert_map, ih]

end Field

/-! ## The fields of an intersection -/

namespace TypedSchema

def declaredFields (members : List TypedSchema) : List (Field ValueType) :=
  members.flatMap fun m => m.fields.getD []

theorem mergedFields_of_isSome {gathered : List (Field ValueType)} {members : List TypedSchema}
    (h : ∀ m ∈ members, m.fields.isSome) :
    mergedFields gathered members = some (Field.merge gathered (declaredFields members)) := by
  induction members generalizing gathered with
  | nil => rfl
  | cons m rest ih =>
    obtain ⟨hm, hrest⟩ := List.forall_mem_cons.mp h
    obtain ⟨fields, hfields⟩ := Option.isSome_iff_exists.mp hm
    unfold mergedFields declaredFields Field.merge
    rw [List.flatMap_cons, List.foldl_append, hfields]
    exact ih hrest

theorem mergedFields_of_none {gathered : List (Field ValueType)} {members : List TypedSchema}
    (h : ∃ m ∈ members, m.fields = none) : mergedFields gathered members = none := by
  induction members generalizing gathered with
  | nil => simp at h
  | cons m rest ih =>
    rw [mergedFields]
    cases hm : m.fields with
    | none => rfl
    | some fields =>
      obtain ⟨k, hk, hnone⟩ := h
      rcases List.mem_cons.mp hk with rfl | hk
      · rw [hm] at hnone
        exact absurd hnone (by simp)
      · exact ih ⟨k, hk, hnone⟩

theorem forall_isSome_or_exists_none (members : List TypedSchema) :
    (∀ m ∈ members, m.fields.isSome) ∨ ∃ m ∈ members, m.fields = none := by
  by_cases h : ∃ m ∈ members, m.fields = none
  · exact Or.inr h
  · refine Or.inl fun m hm => ?_
    rw [Option.isSome_iff_ne_none]
    exact fun hnone => h ⟨m, hm, hnone⟩

end TypedSchema

end GeoSchema
