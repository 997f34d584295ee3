import GeoSchema.Proofs.TypeRules

/-!
# Types describe what schemas accept

A typed schema is sound if the values it accepts inhabit its type. By each of the rules of types a sound
schema comes from sound parts.
-/

namespace GeoSchema

open Schema Value

namespace TypedSchema

/-- What is accepted inhabits the type, and fits the fields. -/
structure Sound (t : TypedSchema) : Prop where
  inhabits : ∀ v, t.schema.accepts v → v.Inhabits t.type
  fits : ∀ fields ∈ t.fields, ∀ v, t.schema.accepts v → v.Fits fields

variable {items alternatives members : List TypedSchema} {fields : List (String × TypedSchema)}
  {item key value : TypedSchema} {label : Option String} {type : ValueType}

theorem sound_of_inhabits {s : Schema} (h : ∀ v, s.accepts v → v.Inhabits type) :
    Sound { schema := s, type } :=
  ⟨h, by simp⟩

/-! ## Sequences and dictionaries -/

theorem sound_tuple (h : ∀ t ∈ items, t.Sound) : (tuple items label).Sound := by
  apply sound_of_inhabits
  intro v hv
  obtain ⟨elements, helements, hlen, hparts⟩ := accepts_tuple.mp hv
  unfold types
  unfold schemas at hlen hparts
  rw [Inhabits]
  refine ⟨elements, elements?_eq_some_iff.mp helements, by simpa using hlen, ?_⟩
  rw [List.zip_map_left, List.forall_mem_map] at hparts ⊢
  intro part hpart
  have hitem : part.1 ∈ items := (List.of_mem_zip hpart).1
  exact (h part.1 hitem).inhabits part.2 (hparts part hpart)

theorem sound_array {nonEmpty : Bool} (h : item.Sound) : (array nonEmpty item label).Sound := by
  apply sound_of_inhabits
  intro v hv
  obtain ⟨elements, helements, _, hitems⟩ := accepts_array.mp hv
  rw [Inhabits]
  exact ⟨elements, elements?_eq_some_iff.mp helements, fun e he => h.inhabits e (hitems e he)⟩

theorem sound_dictionary (hkey : key.Sound) (hvalue : value.Sound) :
    (dictionary key value label).Sound := by
  apply sound_of_inhabits
  intro v hv
  obtain ⟨entries, hentries, hparts⟩ := accepts_dictionary.mp hv
  rw [Inhabits]
  refine ⟨entries, entries?_eq_some_iff.mp hentries, fun e he => ?_⟩
  obtain ⟨hk, hx⟩ := hparts e he
  exact ⟨hkey.inhabits e.1 hk, hvalue.inhabits e.2 hx⟩

/-! ## Unions -/

theorem sound_union (label : Option String) (h : ∀ a ∈ alternatives, a.Sound)
    (htype : ∀ v : Value, v.Inhabits type ↔ ∃ a ∈ types alternatives, v.Inhabits a) :
    Sound { schema := .union (schemas alternatives) label, type } := by
  apply sound_of_inhabits
  intro v hv
  obtain ⟨s, hs, hv⟩ := accepts_union.mp hv
  obtain ⟨a, ha, rfl⟩ := List.mem_map.mp hs
  exact (htype v).mpr ⟨a.type, List.mem_map_of_mem ha, (h a ha).inhabits v hv⟩

/-! ## Objects and intersections -/

theorem sound_of_fits {s : Schema} {declared : List (Field ValueType)}
    (h : ∀ v, s.accepts v → v.Fits declared)
    (htype : ∀ v : Value, v.Inhabits type ↔ v.Fits declared) :
    Sound { schema := s, type, fields := some declared } := by
  refine ⟨fun v hv => (htype v).mpr (h v hv), ?_⟩
  rintro _ ⟨⟩ v hv
  exact h v hv

theorem fits_of_accepts_object {required : Bool} (h : ∀ f ∈ fields, f.2.Sound) {v : Value}
    (hv : (Schema.object required (fields.map fun f => (f.1, f.2.schema)) label).accepts v) :
    v.Fits (fields.map fun f => ⟨f.1, required, f.2.type⟩) := by
  obtain ⟨members, hmembers, hfields⟩ := accepts_object.mp hv
  obtain rfl := members?_eq_some_iff.mp hmembers
  rw [List.forall_mem_map] at hfields
  refine ⟨⟨members, rfl⟩, ?_⟩
  rw [List.forall_mem_map]
  intro f hf
  unfold FitsField
  simp only [member?_object]
  obtain ⟨hpresent, hcontent⟩ := hfields f hf
  refine ⟨fun hrequired => Option.isSome_iff_exists.mp (hpresent hrequired), fun w hw => ?_⟩
  exact (h f hf).inhabits w (hcontent w hw)

theorem fits_merge_of_accepts (hne : members ≠ []) (h : ∀ m ∈ members, m.Sound)
    (hsome : ∀ m ∈ members, m.fields.isSome) {v : Value}
    (hv : (Schema.intersection (schemas members) label).accepts v) :
    v.Fits (Field.merge [] (declaredFields members)) := by
  have hfits : ∀ m ∈ members, ∃ fields, m.fields = some fields ∧ v.Fits fields := by
    intro m hm
    obtain ⟨fields, hfields⟩ := Option.isSome_iff_exists.mp (hsome m hm)
    have haccepts := accepts_intersection.mp hv m.schema (List.mem_map_of_mem hm)
    exact ⟨fields, hfields, (h m hm).fits fields hfields v haccepts⟩
  constructor
  · obtain ⟨m, hm⟩ := List.exists_mem_of_ne_nil members hne
    obtain ⟨_, _, hobject, _⟩ := hfits m hm
    exact hobject
  · intro f hf
    obtain ⟨m, hm, hfm⟩ := List.mem_flatMap.mp (Field.mem_declared_of_mem_merge hf)
    obtain ⟨fields, hfields, _, hall⟩ := hfits m hm
    rw [hfields, Option.getD_some] at hfm
    exact hall f hfm

theorem sound_first {first : TypedSchema} {rest : List TypedSchema} (label : Option String)
    (h : first.Sound) :
    Sound { schema := .intersection (schemas (first :: rest)) label, type := first.type } := by
  apply sound_of_inhabits
  intro v hv
  exact h.inhabits v (accepts_intersection.mp hv first.schema List.mem_cons_self)

/-! ## All schemas -/

theorem TypedByRule.sound {t : TypedSchema} (h : t.TypedByRule) : t.Sound := by
  induction h with
  | number =>
    apply sound_of_inhabits
    intro v hv
    rw [Inhabits]
    exact (Grammar.recognizes_number v).mp hv
  | text =>
    apply sound_of_inhabits
    intro v hv
    rw [Inhabits]
    exact (Grammar.recognizes_text v).mp hv
  | null =>
    apply sound_of_inhabits
    intro v hv
    rw [Inhabits]
    exact (Grammar.recognizes_null v).mp hv
  | any =>
    apply sound_of_inhabits
    intro v hv
    rw [Inhabits]
    trivial
  | literal label hsame =>
    apply sound_of_inhabits
    intro v hv
    rw [Inhabits, ValueType.strictlyEquals_iff_of_sameConstant hsame]
    exact accepts_literal.mp hv
  | tuple _ label ih => exact sound_tuple ih
  | array _ nonEmpty label ih => exact sound_array ih
  | dictionary _ _ label ihkey ihvalue => exact sound_dictionary ihkey ihvalue
  | object _ required label mark hs hdeclared hshown ih =>
    subst hs hdeclared
    refine sound_of_fits (fun v hv => fits_of_accepts_object ih hv) fun v => ?_
    exact ValueType.inhabits_typedDictOf.trans (fits_iff_of_shown hshown v)
  | union _ label hspelled ih =>
    refine sound_union label ih fun v => ?_
    rw [ValueType.inhabits_unionOf]
    exact ValueType.exists_inhabits_iff_of_sameItems hspelled
  | merged hne _ hsome label mark hs hdeclared hshown ih =>
    subst hs hdeclared
    refine sound_of_fits (fun v hv => fits_merge_of_accepts hne ih hsome hv) fun v => ?_
    exact ValueType.inhabits_typedDictOf.trans (fits_iff_of_shown hshown v)
  | @first m rest _ _ label ih => exact sound_first label (ih m List.mem_cons_self)

end TypedSchema

end GeoSchema
