import GeoSchema.Proofs.Scopes

/-!
# The settings in force

Which settings a session answers with is told by the steps before, without its cache: those of the
environment at the first call since the latest clearing that found it without faults. Before such a
call, each call finds the environment as it is.
-/

namespace GeoSchema

def Step.environmentAfter (environment : Variables String) : Step → Variables String
  | .setVariable name text => Variables.set name text environment
  | .unsetVariable name => Variables.unset name environment
  | _ => environment

namespace Session

/-! ## Calls that ask for the settings -/

/-- What a call that asks for the settings in force answers with them. -/
inductive Asks (scope : Scope) : Step → (Settings → Answer) → Prop where
  | getSettings : Asks scope .getSettings .settings
  | validate {d : Declaration} {t : TypedSchema} {after : Scope} (document : Value)
    (h : d.build scope = .ok (t, after)) :
    Asks scope (.validate d document none) fun settings =>
      .verdict (t.schema.validate document settings).1 (t.schema.validate document settings).2

variable {session start : Session} {call s : Step} {answer : Settings → Answer} {settings : Settings}

theorem step_of_asks (h : Asks session.scope call answer) :
    session.step call =
      match session.getSettings with
      | .ok (settings, after) => (.ok (answer settings), after)
      | .error faults => (.error (.settings faults), session) := by
  cases h with
  | getSettings =>
    rw [step, perform]
    cases session.getSettings <;> rfl
  | validate document h =>
    rw [step, perform, validate, h, settingsFor]
    cases session.getSettings <;> rfl

theorem step_of_cached (h : Asks session.scope call answer) (hcached : session.cached = some settings) :
    session.step call = (.ok (answer settings), session) := by
  rw [step_of_asks h, getSettings, hcached]

theorem step_of_ok (h : Asks session.scope call answer) (hcached : session.cached = none)
    (hsources : session.load { environment := session.environment } = .ok settings) :
    session.step call = (.ok (answer settings), { session with cached := some settings }) := by
  rw [step_of_asks h, getSettings, hcached, hsources]

theorem step_of_error (h : Asks session.scope call answer) (hcached : session.cached = none)
    {faults : List Fault}
    (hsources : session.load { environment := session.environment } = .error faults) :
    session.step call = (.error (.settings faults), session) := by
  rw [step_of_asks h, getSettings, hcached, hsources]

theorem step_validate_keywords (d : Declaration) (document : Value) (keywords : List (String × Value))
    (cached : Option Settings) :
    { session with cached }.step (.validate d document (some keywords)) =
      ((session.step (.validate d document (some keywords))).1, { session with cached }) := by
  rw [step, step, perform, perform, validate, validate, settingsFor, settingsFor]
  cases d.build session.scope with
  | error e => rfl
  | ok built => cases session.load { keywords, environment := session.environment } <;> rfl

theorem step_validate_of_ok {d : Declaration} {t : TypedSchema} {after : Scope} {document : Value}
    {keywords : List (String × Value)} (hbuild : d.build session.scope = .ok (t, after))
    (hsources : session.load { keywords, environment := session.environment } = .ok settings) :
    session.step (.validate d document (some keywords)) =
      (.ok (.verdict (t.schema.validate document settings).1 (t.schema.validate document settings).2),
        session) := by
  rw [step, perform, validate, hbuild, settingsFor, hsources]
  rfl

theorem step_of_not_asks (h : ¬ ∃ answer, Asks session.scope s answer) :
    (session.step s).2.load = session.load ∧
      (session.step s).2.environment = s.environmentAfter session.environment ∧
      (s ≠ .clearCache → (session.step s).2.cached = session.cached) := by
  cases s with
  | setVariable name text => exact ⟨rfl, rfl, fun _ => rfl⟩
  | unsetVariable name => exact ⟨rfl, rfl, fun _ => rfl⟩
  | clearCache => exact ⟨rfl, rfl, fun hne => absurd rfl hne⟩
  | getSettings => exact absurd ⟨_, .getSettings⟩ h
  | define name schema =>
    rw [step, perform, define]
    cases schema.build session.scope <;> exact ⟨rfl, rfl, fun _ => rfl⟩
  | validate schema document keywords =>
    cases keywords with
    | some keywords =>
      have hsame : (session.step (.validate schema document (some keywords))).2 = session :=
        congrArg (·.2) (step_validate_keywords schema document keywords session.cached)
      rw [hsame]
      exact ⟨rfl, rfl, fun _ => rfl⟩
    | none =>
      cases hbuild : schema.build session.scope with
      | ok built => exact absurd ⟨_, .validate document hbuild⟩ h
      | error e =>
        rw [step, perform, validate, hbuild]
        exact ⟨rfl, rfl, fun _ => rfl⟩

/-! ## One step -/

theorem not_asks_clearCache : ¬ ∃ answer, Asks session.scope .clearCache answer := by
  rintro ⟨_, ⟨⟩⟩

theorem exists_cached_of_asks (h : Asks session.scope s answer) :
    ∃ cached, (session.step s).2 = { session with cached } := by
  cases hcached : session.cached with
  | some settings => exact ⟨session.cached, by rw [step_of_cached h hcached]⟩
  | none =>
    cases hsources : session.load { environment := session.environment } with
    | ok settings => exact ⟨some settings, by rw [step_of_ok h hcached hsources]⟩
    | error faults => exact ⟨session.cached, by rw [step_of_error h hcached hsources]⟩

theorem load_step (session : Session) (s : Step) : (session.step s).2.load = session.load := by
  by_cases h : ∃ answer, Asks session.scope s answer
  · obtain ⟨answer, h⟩ := h
    obtain ⟨cached, hafter⟩ := exists_cached_of_asks h
    rw [hafter]
  · exact (step_of_not_asks h).1

theorem environment_step (session : Session) (s : Step) :
    (session.step s).2.environment = s.environmentAfter session.environment := by
  by_cases h : ∃ answer, Asks session.scope s answer
  · obtain ⟨answer, h⟩ := h
    obtain ⟨cached, hafter⟩ := exists_cached_of_asks h
    rw [hafter]
    cases h <;> rfl
  · exact (step_of_not_asks h).2.1

/-- The cache keeps what it has until it is cleared. -/
theorem cached_step_iff :
    (session.step s).2.cached = some settings ↔
      (s ≠ .clearCache ∧ session.cached = some settings) ∨
        ((∃ answer, Asks session.scope s answer) ∧
          session.load { environment := session.environment } = .ok settings ∧
          session.cached = none) := by
  by_cases h : ∃ answer, Asks session.scope s answer
  · have hne : s ≠ .clearCache := by
      rintro rfl
      exact not_asks_clearCache h
    obtain ⟨answer, hasks⟩ := h
    cases hcached : session.cached with
    | some kept => simp [step_of_cached hasks hcached, hcached, hne]
    | none =>
      cases hsources : session.load { environment := session.environment } with
      | ok made => simp [step_of_ok hasks hcached hsources, Exists.intro answer hasks]
      | error faults => simp [step_of_error hasks hcached hsources, hcached]
  · by_cases hclear : s = .clearCache
    · subst hclear
      simp [h, step, perform]
    · simp [h, hclear, (step_of_not_asks h).2.2 hclear]

/-! ## All steps before -/

def environmentAfter (environment : Variables String) (steps : List Step) : Variables String :=
  steps.foldl Step.environmentAfter environment

theorem afterSteps_append_singleton (steps : List Step) :
    start.afterSteps (steps ++ [s]) = ((start.afterSteps steps).step s).2 := by
  unfold afterSteps
  rw [List.foldl_append]
  rfl

theorem afterSteps_cons (start : Session) (s : Step) (rest : List Step) :
    start.afterSteps (s :: rest) = (start.step s).2.afterSteps rest :=
  rfl

theorem load_afterSteps (steps : List Step) : (start.afterSteps steps).load = start.load := by
  induction steps using List.reverseRecOn with
  | nil => rfl
  | append_singleton steps s ih => rw [afterSteps_append_singleton, load_step, ih]

theorem environment_afterSteps (steps : List Step) :
    (start.afterSteps steps).environment = environmentAfter start.environment steps := by
  induction steps using List.reverseRecOn with
  | nil => rfl
  | append_singleton steps s ih =>
    rw [afterSteps_append_singleton, environment_step, ih, environmentAfter, environmentAfter,
      List.foldl_append]
    rfl

/-- Since the cache was last cleared there is such a call after such steps. -/
def SinceClear (such : List Step → Step → Prop) (history : List Step) : Prop :=
  ∃ before call later, history = before ++ call :: later ∧ .clearCache ∉ later ∧ such before call

theorem not_sinceClear_nil {such : List Step → Step → Prop} : ¬ SinceClear such [] := by
  rintro ⟨before, call, later, h, _⟩
  exact absurd h.symm (List.append_ne_nil_of_right_ne_nil _ (List.cons_ne_nil _ _))

theorem sinceClear_append_singleton {such : List Step → Step → Prop} {history : List Step} :
    SinceClear such (history ++ [s]) ↔ (s ≠ .clearCache ∧ SinceClear such history) ∨ such history s := by
  constructor
  · rintro ⟨before, call, later, hhistory, hclear, hcall⟩
    rcases List.eq_nil_or_concat later with rfl | ⟨later, last, rfl⟩
    · obtain ⟨rfl, hlast⟩ := List.append_inj' hhistory rfl
      cases hlast
      exact Or.inr hcall
    · rw [List.concat_eq_append, ← List.cons_append, ← List.append_assoc] at hhistory
      obtain ⟨rfl, hlast⟩ := List.append_inj' hhistory rfl
      cases hlast
      rw [List.concat_eq_append, List.mem_append, List.mem_singleton, not_or] at hclear
      exact Or.inl ⟨Ne.symm hclear.2, before, call, later, rfl, hclear.1, hcall⟩
  · rintro (⟨hne, before, call, later, rfl, hclear, hcall⟩ | hcall)
    · refine ⟨before, call, later ++ [s], by simp, ?_, hcall⟩
      rw [List.mem_append, List.mem_singleton, not_or]
      exact ⟨hclear, Ne.symm hne⟩
    · exact ⟨history, s, [], rfl, List.not_mem_nil, hcall⟩

/-- The call finds these settings in the environment. -/
def Builds (start : Session) (settings : Settings) (before : List Step) (call : Step) : Prop :=
  (∃ answer, Asks (start.afterSteps before).scope call answer) ∧
    start.load { environment := environmentAfter start.environment before } = .ok settings

/-- The first call since the latest clearing that finds no faults finds these settings. -/
def InForce (start : Session) (settings : Settings) (history : List Step) : Prop :=
  SinceClear (fun before call => Builds start settings before call ∧
    ∀ other, ¬ SinceClear (Builds start other) before) history

/-- The cache holds the settings in force, if there are any. -/
theorem cached_afterSteps (hstart : start.cached = none) (history : List Step) :
    (∀ settings, (start.afterSteps history).cached = some settings ↔ InForce start settings history) ∧
      ((start.afterSteps history).cached = none ↔
        ∀ settings, ¬ SinceClear (Builds start settings) history) := by
  induction history using List.reverseRecOn with
  | nil =>
    rw [afterSteps, List.foldl_nil, hstart]
    exact ⟨fun _ => ⟨nofun, fun h => absurd h not_sinceClear_nil⟩,
      fun _ _ => not_sinceClear_nil, fun _ => rfl⟩
  | append_singleton history s ih =>
    obtain ⟨hforce, hnone⟩ := ih
    rw [afterSteps_append_singleton]
    constructor
    · intro settings
      rw [cached_step_iff, hforce, hnone, load_afterSteps, environment_afterSteps, InForce, InForce,
        sinceClear_append_singleton, Builds, and_assoc]
    · rw [Option.eq_none_iff_forall_ne_some]
      simp only [Ne, cached_step_iff, sinceClear_append_singleton, load_afterSteps, environment_afterSteps, Builds]
      cases hcached : (start.afterSteps history).cached with
      | none => simp [hnone.mp hcached]
      | some kept =>
        have hbuilt : ∃ settings, SinceClear (Builds start settings) history := by
          by_contra hnever
          rw [hnone.mpr (not_exists.mp hnever)] at hcached
          cases hcached
        obtain ⟨built, hbuilt⟩ := hbuilt
        -- Both sides only say that the step clears the cache.
        by_cases hclear : s = .clearCache
        · subst hclear
          simp [not_asks_clearCache]
        · exact ⟨fun h => absurd (Or.inl ⟨hclear, rfl⟩) (h kept),
            fun h => absurd (Or.inl ⟨hclear, hbuilt⟩) (h built)⟩

/-! ## Runs -/

theorem length_run (session : Session) (steps : List Step) : (session.run steps).length = steps.length := by
  induction steps generalizing session with
  | nil => rfl
  | cons s rest ih => rw [run, List.length_cons, List.length_cons, ih]

theorem run_append_cons_getElem? (session : Session) (before later : List Step) (call : Step) :
    (session.run (before ++ call :: later))[before.length]? =
      some ((session.afterSteps before).step call).1 := by
  rw [run_append, List.getElem?_append_right (Nat.le_of_eq (length_run session before)), length_run, Nat.sub_self, run,
    List.getElem?_cons_zero]

/-- Calls are answered with the settings in force, or else from the environment as it is now. -/
theorem answers_with_settings_in_force (load : Loader) (environment : Variables String)
    (history : List Step) :
    let start : Session := { load, environment }
    let now := start.afterSteps history
    (∀ call later, (start.run (history ++ call :: later))[history.length]? = some (now.step call).1) ∧
    ((∃! settings, InForce start settings history) ∨
      ∀ settings, ¬ SinceClear (Builds start settings) history) ∧
    (∀ settings, InForce start settings history → ∀ call answer, Asks now.scope call answer →
      now.step call = (.ok (answer settings), now)) ∧
    ((∀ settings, ¬ SinceClear (Builds start settings) history) →
      now.cached = none ∧ ∀ call answer, Asks now.scope call answer →
        match load { environment := environmentAfter environment history } with
        | .ok settings => now.step call = (.ok (answer settings), { now with cached := some settings })
        | .error faults => now.step call = (.error (.settings faults), now)) ∧
    ∀ d document keywords,
      (now.step (.validate d document (some keywords))).2 = now ∧
        ∀ cached, ({ now with cached }.step (.validate d document (some keywords))).1 =
          (now.step (.validate d document (some keywords))).1 := by
  intro start now
  have hstart : start.cached = none := rfl
  obtain ⟨hforce, hnone⟩ := cached_afterSteps hstart history
  have hload : now.load = load := load_afterSteps history
  have henvironment : now.environment = environmentAfter environment history :=
    environment_afterSteps history
  refine ⟨?_, ?_, ?_, ?_, ?_⟩
  · intro call later
    exact run_append_cons_getElem? start history later call
  · cases hcached : now.cached with
    | none => exact Or.inr (hnone.mp hcached)
    | some settings =>
      refine Or.inl ⟨settings, (hforce settings).mp hcached, fun other hother => ?_⟩
      have hsame := (hforce other).mpr hother
      rw [hcached] at hsame
      exact (Option.some.inj hsame).symm
  · intro settings hsettings call answer hasks
    exact step_of_cached hasks ((hforce settings).mpr hsettings)
  · intro hnever
    have hcached : now.cached = none := hnone.mpr hnever
    refine ⟨hcached, fun call answer hasks => ?_⟩
    rw [← hload, ← henvironment]
    split
    · rename_i hsources
      exact step_of_ok hasks hcached hsources
    · rename_i hsources
      exact step_of_error hasks hcached hsources
  · intro d document keywords
    have hstep (cached : Option Settings) := @step_validate_keywords now d document keywords cached
    exact ⟨congrArg (·.2) (hstep now.cached), fun cached => congrArg (·.1) (hstep cached)⟩

theorem find?_variableName (keywords : List (String × Value)) (s other : Setting) (text : String) :
    Sources.find? { keywords, environment := [(s.variableName, text)] } other =
      (keywords.lookup other.name <|> if s = other then some (.text text) else none) := by
  have hlower (s : Setting) : s.variableName.toLower = s.variableName := by cases s <;> decide +kernel
  have hsame : s.variableName = other.variableName ↔ s = other := by
    cases s <;> cases other <;> simp [Setting.variableName, Setting.name]
  have hfound : Variables.find? other.variableName [(s.variableName, text)] =
      if s = other then some text else none := by
    simp [Variables.find?, hlower, hsame]
  rw [Sources.find?, hfound]
  split <;> rfl

theorem ofSources_of_failFast {sources : Sources} {v : Value} (hflag : sources.find? .failFast = some v)
    (hcap : sources.find? .maxIssues = none) (hlevel : sources.find? .logLevel = none) :
    Settings.ofSources sources =
      match v.toFlag with
      | .ok failFast => .ok { failFast }
      | .error misfit => .error [⟨.failFast, misfit⟩] := by
  rw [Settings.ofSources, Sources.failFast, Sources.maxIssues, Sources.logLevel, Sources.get,
    Sources.get, Sources.get, hflag, hcap, hlevel]
  dsimp only
  cases v.toFlag <;> rfl

theorem answers_with_settings_in_force_after_failure :
    let start : Session := { environment := [] }
    let n := Setting.failFast.variableName
    let failed := start.afterSteps [.setVariable n "maybe"]
    let settled := start.afterSteps [.setVariable n "maybe", .getSettings, .setVariable n "on",
      .getSettings, .setVariable n "maybe"]
    let numbers := Schema.array false Grammar.number none
    let document := Value.list [.null, .null]
    let check := Step.validate ⟨[], .array false (.named "number") none⟩ document
    let verdict (settings : Settings) : Answer :=
      .verdict (numbers.validate document settings).1 (numbers.validate document settings).2
    let full := [(Setting.failFast.name, Value.bool false)]
    failed.step .getSettings = (.error (.settings [⟨.failFast, .unclearFlag⟩]), failed) ∧
      failed.step (check none) = (.error (.settings [⟨.failFast, .unclearFlag⟩]), failed) ∧
      (settled.step .getSettings).1 = .ok (.settings { failFast := true }) ∧
      (settled.step (check none)).1 = .ok (verdict { failFast := true }) ∧
      failed.step (check (some full)) = (.ok (verdict {}), failed) ∧
      settled.step (check (some full)) = (.ok (verdict {}), settled) := by
  intro start n failed settled numbers document check verdict full
  have hmaybe : Settings.ofSources { environment := [(n, "maybe")] } =
      .error [⟨.failFast, .unclearFlag⟩] := by
    rw [ofSources_of_failFast (find?_variableName [] ..) (find?_variableName ..) (find?_variableName ..)]
    decide +kernel
  have hon : Settings.ofSources { environment := [(n, "on")] } = .ok { failFast := true } := by
    rw [ofSources_of_failFast (find?_variableName ..) (find?_variableName ..) (find?_variableName ..)]
    decide +kernel
  have hfull : Settings.ofSources { keywords := full, environment := [(n, "maybe")] } = .ok {} := by
    rw [ofSources_of_failFast (find?_variableName ..) (find?_variableName ..) (find?_variableName ..)]
    rfl
  obtain ⟨t, after, hbuild, hschema⟩ : ∃ t after,
      Declaration.build ⟨[], .array false (.named "number") none⟩ {} = .ok (t, after) ∧
        t.schema = numbers := ⟨_, _, rfl, rfl⟩
  have hcheck : Asks {} (check none) verdict := by
    have hasks := Asks.validate document hbuild
    rw [hschema] at hasks
    exact hasks
  have hfailed : failed = { environment := [(n, "maybe")] } := rfl
  have hfails (call : Step) (answer : Settings → Answer) (hasks : Asks failed.scope call answer) :
      failed.step call = (.error (.settings [⟨.failFast, .unclearFlag⟩]), failed) := by
    obtain ⟨_, _, _, hnever, _⟩ :=
      answers_with_settings_in_force Settings.ofSources [] [.setVariable n "maybe"]
    have hanswer := (hnever ((cached_afterSteps rfl _).2.mp rfl)).2 call answer hasks
    have henvironment : environmentAfter [] [.setVariable n "maybe"] = [(n, "maybe")] := rfl
    rw [henvironment, hmaybe] at hanswer
    exact hanswer
  -- The call that failed left the session as it was, so that the next one finds the cache empty.
  have hsettled : settled = { environment := [(n, "maybe")], cached := some { failFast := true } } := by
    have hset : (failed.step (.setVariable n "on")).2 = { environment := [(n, "on")] } := by
      simp [hfailed, step, perform, Variables.set]
    have hanswer : Session.step { environment := [(n, "on")] } .getSettings =
        (.ok (.settings { failFast := true }),
          { environment := [(n, "on")], cached := some { failFast := true } }) :=
      step_of_ok .getSettings rfl hon
    have hsteps : settled = failed.afterSteps [.getSettings, .setVariable n "on", .getSettings,
        .setVariable n "maybe"] := afterSteps_cons start _ _
    rw [hsteps, afterSteps_cons, hfails .getSettings _ .getSettings, afterSteps_cons, hset, afterSteps_cons,
      hanswer]
    simp [afterSteps, step, perform, Variables.set]
  obtain ⟨_, _, hforce, _, hown⟩ := answers_with_settings_in_force Settings.ofSources []
    [.setVariable n "maybe", .getSettings, .setVariable n "on", .getSettings, .setVariable n "maybe"]
  have hanswers := hforce { failFast := true } (((cached_afterSteps rfl _).1 _).mp (congrArg (·.cached) hsettled))
  have hfullFailed : failed.step (check (some full)) = (.ok (verdict {}), failed) := by
    have hanswer := @step_validate_of_ok { environment := [(n, "maybe")] } {} _ t after document full
      hbuild hfull
    rw [hschema] at hanswer
    rw [hfailed]
    exact hanswer
  have hsettledCheck : Asks settled.scope (check none) verdict := by
    rw [hsettled]
    exact hcheck
  refine ⟨hfails .getSettings _ .getSettings, hfails (check none) _ hcheck, ?_, ?_, hfullFailed, ?_⟩
  · exact congrArg (·.1) (hanswers .getSettings _ .getSettings)
  · exact congrArg (·.1) (hanswers (check none) _ hsettledCheck)
  · obtain ⟨hkept, hsame⟩ := hown ⟨[], .array false (.named "number") none⟩ document full
    have hcleared : { settled with cached := none } = failed := by rw [hsettled, hfailed]
    have hanswer : (settled.step (check (some full))).1 = (failed.step (check (some full))).1 := by
      rw [← hcleared]
      exact (hsame none).symm
    rw [hfullFailed] at hanswer
    exact Prod.ext hanswer hkept

end Session

end GeoSchema
