import GeoSchema.Session
import Mathlib.Data.List.Induction
import Mathlib.Tactic.Common

/-!
# Invariants of scopes

A session changes its scope only where it defines a schema, and what building does to a scope is fixed
by the kinds of declarations. So what every kind of declaration keeps holds after any steps, and of
whatever is built then.
-/

namespace GeoSchema

/-! ## Results -/

theorem bind_ok {ε α β : Type} {x : Except ε α} {f : α → Except ε β} {b : β}
    (h : (x >>= f) = .ok b) : ∃ a, x = .ok a ∧ f a = .ok b := by
  cases x with
  | error e => cases h
  | ok a => exact ⟨a, rfl, h⟩

theorem mapError_ok {ε ε' α : Type} {g : ε → ε'} {x : Except ε α} {a : α}
    (h : x.mapError g = .ok a) : x = .ok a := by
  cases x with
  | error e => cases h
  | ok b =>
    cases h
    rfl

/-! ## Blueprints -/

namespace Blueprint

variable {α β : Type} {I : Scope → Prop} {P : α → Prop} {Q : β → Prop}

/-- The step keeps the invariant, and its result has the property. -/
def Keeps (I : Scope → Prop) (m : BuildM α) (P : α → Prop) : Prop :=
  ∀ scope, I scope → ∀ a after, m.run scope = .ok (a, after) → P a ∧ I after

theorem keeps_pure {a : α} (h : P a) : Keeps I (pure a) P := by
  rintro scope hscope _ _ ⟨⟩
  exact ⟨h, hscope⟩

theorem keeps_throw (e : BuildError) : Keeps I (throw e) P := by
  rintro scope hscope _ _ ⟨⟩

theorem run_bind_ok {m : BuildM α} {f : α → BuildM β} {scope after : Scope} {b : β}
    (h : (m >>= f).run scope = .ok (b, after)) :
    ∃ a between, m.run scope = .ok (a, between) ∧ (f a).run between = .ok (b, after) := by
  rw [StateT.run_bind] at h
  obtain ⟨p, hm, hf⟩ := bind_ok h
  exact ⟨p.1, p.2, hm, hf⟩

theorem keeps_bind {m : BuildM α} {f : α → BuildM β} (hm : Keeps I m P)
    (hf : ∀ a, P a → Keeps I (f a) Q) : Keeps I (m >>= f) Q := by
  intro scope hscope b after h
  obtain ⟨a, between, hrun, hrest⟩ := run_bind_ok h
  obtain ⟨ha, hbetween⟩ := hm scope hscope a between hrun
  exact hf a ha between hbetween b after hrest

theorem keeps_get : Keeps I get I := by
  rintro scope hscope _ _ ⟨⟩
  exact ⟨hscope, hscope⟩

/-- Building keeps the invariant, and hands the property on from parts. -/
structure Invariant (I : Scope → Prop) (P : TypedSchema → Prop) : Prop where
  marked : ∀ {scope}, I scope → I { scope with nextMark := scope.nextMark + 1 }
  found : ∀ {scope}, I scope → ∀ {name t}, scope.find? name = some t → P t
  defined : ∀ {scope}, I scope → ∀ {t}, P t → ∀ name, I (scope.define name t)
  dropped : ∀ {scope inner}, I scope → I inner → I { inner with defined := scope.defined }
  literal : ∀ c label mark, Keeps I (declare (TypedSchema.literal c label mark)) P
  tuple : ∀ {items label}, (∀ t ∈ items, P t) → P (.tuple items label)
  array : ∀ {nonEmpty item label}, P item → P (.array nonEmpty item label)
  dictionary : ∀ {key value label}, P key → P value → P (.dictionary key value label)
  object : ∀ {fields}, (fields.map (·.1)).Nodup → (∀ f ∈ fields, P f.2) → ∀ required label mark,
    Keeps I (declare (TypedSchema.object required fields label mark)) P
  union : ∀ {alternatives}, alternatives ≠ [] → (∀ t ∈ alternatives, P t) → ∀ label,
    Keeps I (declare (TypedSchema.union alternatives label)) P
  intersection : ∀ {members}, members ≠ [] → (∀ t ∈ members, P t) → ∀ label mark,
    Keeps I (declare (TypedSchema.intersection members label mark)) P
  featureWith : ∀ {properties}, P properties → ∀ label mark,
    Keeps I (declare (TypedSchema.featureWith properties label mark)) P

theorem mem_of_mem_lastOfEachKey {α : Type} {fields : List (String × α)} {f : String × α}
    (h : f ∈ lastOfEachKey fields) : f ∈ fields := by
  induction fields using List.reverseRecOn generalizing f with
  | nil => simp [lastOfEachKey] at h
  | append_singleton fields last ih =>
    unfold lastOfEachKey at h ih
    rw [List.foldl_append, List.foldl_cons, List.foldl_nil] at h
    rw [List.mem_append, List.mem_singleton]
    split at h
    · obtain ⟨g, hg, hf⟩ := List.mem_map.mp h
      split at hf
      · exact Or.inr hf.symm
      · rw [← hf]
        exact Or.inl (ih hg)
    · rw [List.mem_append, List.mem_singleton] at h
      exact h.imp_left ih

theorem map_fst_replaced {α : Type} (acc : List (String × α)) (f : String × α) :
    (acc.map fun g => if g.1 == f.1 then f else g).map (·.1) = acc.map (·.1) := by
  rw [List.map_map]
  refine List.map_congr_left fun g _ => ?_
  rw [Function.comp_apply]
  split
  · rename_i hkey
    exact (beq_iff_eq.mp hkey).symm
  · rfl

theorem nodup_lastOfEachKey {α : Type} (fields : List (String × α)) :
    ((lastOfEachKey fields).map (·.1)).Nodup := by
  induction fields using List.reverseRecOn with
  | nil => exact List.nodup_nil
  | append_singleton fields last ih =>
    unfold lastOfEachKey at ih ⊢
    rw [List.foldl_append, List.foldl_cons, List.foldl_nil]
    split
    · rw [map_fst_replaced]
      exact ih
    · rename_i hnew
      rw [List.map_append, List.map_singleton, List.nodup_append]
      refine ⟨ih, List.pairwise_singleton _ _, ?_⟩
      simp only [List.forall_mem_map, List.mem_singleton, forall_eq]
      intro f hf hkey
      exact hnew (List.any_eq_true.mpr ⟨f, hf, beq_iff_eq.mpr hkey⟩)

namespace Invariant

variable {I : Scope → Prop} {P : TypedSchema → Prop}

theorem keeps_freshMark (h : Invariant I P) : Keeps I freshMark fun _ => True := by
  rintro scope hscope _ _ ⟨⟩
  exact ⟨trivial, h.marked hscope⟩

theorem keeps_define (h : Invariant I P) (name : String) {t : TypedSchema} (ht : P t) :
    Keeps I (modify (·.define name t)) fun _ => True := by
  rintro scope hscope _ _ ⟨⟩
  exact ⟨trivial, h.defined hscope ht name⟩

mutual

theorem keeps_build (h : Invariant I P) : (b : Blueprint) → Keeps I b.build P
  | .named name => by
    rw [build]
    refine keeps_bind keeps_get fun scope hscope => ?_
    split
    · rename_i t hfound
      exact keeps_pure (h.found hscope hfound)
    · exact keeps_throw _
  | .literal c label => by
    rw [build]
    exact keeps_bind h.keeps_freshMark fun mark _ => h.literal c label mark
  | .tuple items label => by
    rw [build]
    exact keeps_bind (keeps_buildAll h items) fun built hbuilt => keeps_pure (h.tuple hbuilt)
  | .array nonEmpty item label => by
    rw [build]
    exact keeps_bind (keeps_build h item) fun built hbuilt => keeps_pure (h.array hbuilt)
  | .dictionary key value label => by
    rw [build]
    refine keeps_bind (keeps_build h key) fun k hk => ?_
    exact keeps_bind (keeps_build h value) fun v hv => keeps_pure (h.dictionary hk hv)
  | .object required fields label => by
    rw [build]
    refine keeps_bind (keeps_buildFields h fields) fun built hbuilt => ?_
    refine keeps_bind h.keeps_freshMark fun mark _ => ?_
    have hparts : ∀ f ∈ lastOfEachKey built, P f.2 :=
      fun f hf => hbuilt f (mem_of_mem_lastOfEachKey hf)
    exact h.object (nodup_lastOfEachKey built) hparts required label mark
  | .union alternatives label => by
    rw [build]
    refine keeps_bind (keeps_buildAll h alternatives) fun built hbuilt => ?_
    split
    · exact keeps_throw _
    · rename_i hne
      exact h.union hne hbuilt label
  | .intersection members label => by
    rw [build]
    refine keeps_bind (keeps_buildAll h members) fun built hbuilt => ?_
    split
    · exact keeps_throw _
    · rename_i hne
      exact keeps_bind h.keeps_freshMark fun mark _ => h.intersection hne hbuilt label mark
  | .featureWith properties label => by
    rw [build]
    refine keeps_bind (keeps_build h properties) fun built hbuilt => ?_
    exact keeps_bind h.keeps_freshMark fun mark _ => h.featureWith hbuilt label mark

theorem keeps_buildAll (h : Invariant I P) : (bs : List Blueprint) →
    Keeps I (buildAll bs) fun built => ∀ t ∈ built, P t
  | [] => by
    rw [buildAll]
    exact keeps_pure (by simp)
  | b :: rest => by
    rw [buildAll]
    refine keeps_bind (keeps_build h b) fun t ht => ?_
    refine keeps_bind (keeps_buildAll h rest) fun built hbuilt => ?_
    exact keeps_pure (List.forall_mem_cons.mpr ⟨ht, hbuilt⟩)

theorem keeps_buildFields (h : Invariant I P) : (fields : List (String × Blueprint)) →
    Keeps I (buildFields fields) fun built => ∀ f ∈ built, P f.2
  | [] => by
    rw [buildFields]
    exact keeps_pure (by simp)
  | (key, b) :: rest => by
    rw [buildFields]
    refine keeps_bind (keeps_build h b) fun t ht => ?_
    refine keeps_bind (keeps_buildFields h rest) fun built hbuilt => ?_
    exact keeps_pure (List.forall_mem_cons.mpr ⟨ht, hbuilt⟩)

end

theorem keeps_defineAll (h : Invariant I P) (defs : List (String × Blueprint)) :
    Keeps I (defineAll defs) fun _ => True := by
  induction defs with
  | nil => exact keeps_pure trivial
  | cons d rest ih =>
    rw [defineAll]
    refine keeps_bind (h.keeps_build d.2) fun t ht => ?_
    exact keeps_bind (h.keeps_define d.1 ht) fun _ _ => ih

end Invariant

end Blueprint

/-! ## Declarations -/

namespace Declaration

variable {d : Declaration} {t : TypedSchema} {scope after : Scope} {I : Scope → Prop}
  {P : TypedSchema → Prop}

/-- The definitions are dropped when the schema is built. -/
theorem build_ok (h : d.build scope = .ok (t, after)) :
    ∃ inner built, (Blueprint.defineAll d.defs).run scope = .ok ((), inner) ∧
      d.schema.build.run inner = .ok (t, built) ∧ after = { built with defined := scope.defined } := by
  unfold Declaration.build at h
  obtain ⟨p, hrun, hp⟩ := bind_ok h
  cases hp
  obtain ⟨_, inner, hdefs, hschema⟩ := Blueprint.run_bind_ok hrun
  exact ⟨inner, p.2, hdefs, hschema, rfl⟩

theorem keeps_of_build (h : Blueprint.Invariant I P) (hscope : I scope)
    (hbuild : d.build scope = .ok (t, after)) : P t ∧ I after := by
  obtain ⟨inner, built, hdefs, hschema, rfl⟩ := build_ok hbuild
  obtain ⟨_, hinner⟩ := h.keeps_defineAll d.defs scope hscope () inner hdefs
  obtain ⟨ht, hbuilt⟩ := h.keeps_build d.schema inner hinner t built hschema
  exact ⟨ht, h.dropped hscope hbuilt⟩

end Declaration

/-! ## Sessions -/

namespace Session

variable {session after : Session} {I : Scope → Prop} {P : TypedSchema → Prop}

theorem scope_of_getSettings {settings : Settings} (h : session.getSettings = .ok (settings, after)) :
    after.scope = session.scope := by
  unfold getSettings at h
  split at h
  · cases h
    rfl
  · split at h
    · cases h
      rfl
    · cases h

theorem scope_of_settingsFor {keywords : Option (List (String × Value))} {settings : Settings}
    (h : session.settingsFor keywords = .ok (settings, after)) : after.scope = session.scope := by
  cases keywords with
  | none => exact scope_of_getSettings h
  | some keywords =>
    rw [settingsFor] at h
    split at h
    · cases h
      rfl
    · cases h

theorem scope_of_perform {s : Step} {answer : Answer} (hs : session.perform s = .ok (answer, after)) :
    after.scope = session.scope ∨ ∃ d t built name,
      Declaration.build d session.scope = .ok (t, built) ∧ after.scope = built.define name t := by
  cases s with
  | setVariable name text =>
    cases hs
    exact Or.inl rfl
  | unsetVariable name =>
    cases hs
    exact Or.inl rfl
  | clearCache =>
    cases hs
    exact Or.inl rfl
  | getSettings =>
    rw [perform] at hs
    obtain ⟨p, hget, hp⟩ := bind_ok hs
    cases hp
    exact Or.inl (scope_of_getSettings (mapError_ok hget))
  | define name schema =>
    rw [perform, define] at hs
    obtain ⟨p, hdefine, hp⟩ := bind_ok hs
    obtain ⟨q, hbuild, hq⟩ := bind_ok hdefine
    cases hq
    cases hp
    exact Or.inr ⟨schema, q.1, q.2, name, mapError_ok hbuild, rfl⟩
  | validate schema document keywords =>
    rw [perform, validate] at hs
    obtain ⟨p, hvalidate, hp⟩ := bind_ok hs
    obtain ⟨_, _, hsettings⟩ := bind_ok hvalidate
    obtain ⟨q, hget, hq⟩ := bind_ok hsettings
    cases hq
    cases hp
    exact Or.inl (scope_of_settingsFor (mapError_ok hget))

theorem keeps_step (h : Blueprint.Invariant I P) (hscope : I session.scope) (s : Step) :
    I (session.step s).2.scope := by
  unfold step
  split
  · rename_i hperform
    obtain hsame | ⟨d, t, built, name, hbuild, hdefined⟩ := scope_of_perform hperform
    · rw [hsame]
      exact hscope
    · rw [hdefined]
      obtain ⟨ht, hbuilt⟩ := Declaration.keeps_of_build h hscope hbuild
      exact h.defined hbuilt ht name
  · exact hscope

def afterSteps (session : Session) (steps : List Step) : Session :=
  steps.foldl (fun now s => (now.step s).2) session

theorem run_append (steps rest : List Step) :
    session.run (steps ++ rest) = session.run steps ++ (session.afterSteps steps).run rest := by
  induction steps generalizing session with
  | nil => rfl
  | cons s more ih =>
    rw [List.cons_append, run, run, ih, List.cons_append]
    rfl

theorem keeps_afterSteps (h : Blueprint.Invariant I P) (hscope : I session.scope) (steps : List Step) :
    I (session.afterSteps steps).scope := by
  induction steps generalizing session with
  | nil => exact hscope
  | cons s rest ih => exact ih (keeps_step h hscope s)

end Session

end GeoSchema
