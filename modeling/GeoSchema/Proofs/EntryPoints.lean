import GeoSchema.Guard
import GeoSchema.Proofs.Acceptance

/-!
# Entry points agree

Validating, deciding, decoding and guarding a field check a document in different modes, and a cap
may cut the report. All of them accept the same documents, and a cut report is a first part of the
whole one that never comes out empty.
-/

namespace GeoSchema

/-! ## Caps -/

namespace Settings

def quota (settings : Settings) (count : Nat) : Nat :=
  match settings.maxIssues with
  | none => count
  | some cap => min cap.limit count

/-- The issues that the cap lets through. -/
def cut (settings : Settings) (issues : List Issue) : List Issue :=
  issues.take (settings.quota issues.length)

/-- No cap is the loosest. -/
def CapLE (settings looser : Settings) : Prop :=
  ∀ cap ∈ looser.maxIssues, ∃ lower ∈ settings.maxIssues, lower.limit ≤ cap.limit

theorem quota_le_quota {settings looser : Settings} (h : settings.CapLE looser) (count : Nat) :
    settings.quota count ≤ looser.quota count := by
  unfold quota
  cases hlooser : looser.maxIssues with
  | none => cases settings.maxIssues <;> simp
  | some cap =>
    obtain ⟨lower, hlower, hle⟩ := h cap (Option.mem_def.mpr hlooser)
    rw [Option.mem_def.mp hlower]
    simp only
    omega

theorem cut_prefix_cut {settings looser : Settings} (h : settings.CapLE looser)
    (issues : List Issue) : settings.cut issues <+: looser.cut issues :=
  List.take_prefix_take_left (quota_le_quota h issues.length)

theorem cut_ne_nil (settings : Settings) {issues : List Issue} (h : issues ≠ []) :
    settings.cut issues ≠ [] := by
  have hlen : 0 < issues.length := List.length_pos_iff.mpr h
  have hquota : 0 < settings.quota issues.length := by
    unfold quota
    cases settings.maxIssues with
    | none => exact hlen
    | some cap =>
      have := cap.pos
      simp only
      omega
  rw [cut, Ne, List.take_eq_nil_iff, not_or]
  exact ⟨by omega, h⟩

end Settings

/-! ## Outcomes -/

namespace Rejection

theorem ofIssues?_of_ne_nil {issues : List Issue} (h : issues ≠ []) :
    ofIssues? issues = some ⟨issues, h⟩ := by
  rw [ofIssues?, dif_neg h]

theorem issues_capped (r : Rejection) (settings : Settings) :
    (r.capped settings.maxIssues).issues = settings.cut r.issues := by
  unfold Settings.cut Settings.quota
  cases settings.maxIssues with
  | none => rw [capped, List.take_length]
  | some cap => rw [capped, ← List.take_eq_take_min]

end Rejection

def Verdict.issues (verdict : Verdict) : List Issue := verdict.fold id fun _ => []

namespace Schema

variable {s : Schema} {document : Value} {settings : Settings}

theorem validate_of_accepts (h : s.accepts document) :
    (s.validate document settings).1 = .valid document := by
  have hnil : s.check document [] settings.failFast = [] := check_eq_nil_iff_accepts.mpr h
  rw [validate, hnil]
  rfl

theorem decode_of_accepts (h : s.accepts document) : s.decode document = .ok document := by
  have hnil : s.check document [] false = [] := check_eq_nil_iff_accepts.mpr h
  rw [decode, hnil]
  rfl

theorem guardField_of_accepts (h : s.accepts document) : s.guardField document = .ok document := by
  rw [guardField, decode_of_accepts h]
  rfl

theorem validate_of_refused (h : s.accepts document = false) :
    (s.validate document settings).1 =
      .invalid (Rejection.capped ⟨_, (check_ne_nil_iff [] settings.failFast).mpr h⟩
        settings.maxIssues) := by
  have hne : s.check document [] settings.failFast ≠ [] := (check_ne_nil_iff _ _).mpr h
  rw [validate, Rejection.ofIssues?_of_ne_nil hne]

theorem decode_of_refused (h : s.accepts document = false) :
    s.decode document = .error ⟨_, (check_ne_nil_iff [] false).mpr h⟩ := by
  have hne : s.check document [] false ≠ [] := (check_ne_nil_iff _ _).mpr h
  rw [decode, Rejection.ofIssues?_of_ne_nil hne]

theorem guardField_of_refused (h : s.accepts document = false) :
    s.guardField document = .error
      { expected := s.name,
        details := "; ".intercalate (Issue.messages (s.check document [] false)) } := by
  rw [guardField, decode_of_refused h]
  rfl

theorem issues_validate (s : Schema) (document : Value) (settings : Settings) :
    (s.validate document settings).1.issues =
      settings.cut (s.check document [] settings.failFast) := by
  cases h : s.accepts document with
  | true =>
    have hnil : s.check document [] settings.failFast = [] := check_eq_nil_iff_accepts.mpr h
    rw [validate_of_accepts h, hnil, Settings.cut, List.take_nil]
    rfl
  | false =>
    rw [validate_of_refused h, Verdict.issues, Verdict.fold, id, Rejection.issues_capped]

theorem issues_validate_prefix_looser (s : Schema) (document : Value) {looser : Settings}
    (hmode : looser.failFast = settings.failFast) (hcap : settings.CapLE looser) :
    (s.validate document settings).1.issues <+: (s.validate document looser).1.issues := by
  rw [issues_validate, issues_validate, hmode]
  exact Settings.cut_prefix_cut hcap _

end Schema

theorem Issue.messages_prefix_messages {issues more : List Issue} (h : issues <+: more) :
    messages issues <+: messages more := by
  obtain ⟨rest, rfl⟩ := h
  rw [messages, messages, leavesOf_append, List.map_append]
  exact List.prefix_append _ _

/-! ## Agreement -/

/-- All entry points accept and refuse alike, and verdicts cut the full report. -/
theorem Schema.entry_points_agree (s : Schema) (document : Value) (settings : Settings) :
    ((s.validate document settings).1 = .valid document ↔ s.accepts document) ∧
    (s.decode document = .ok document ↔ s.accepts document) ∧
    (s.guardField document = .ok document ↔ s.accepts document) ∧
    (s.accepts document = false →
      ∃ rejection refusal guardError,
        (s.validate document settings).1 = .invalid rejection ∧
        s.decode document = .error refusal ∧
        s.guardField document = .error guardError ∧
        settings.cut (s.check document [] settings.failFast) ≠ [] ∧
        Rejection.ofIssues? (settings.cut (s.check document [] settings.failFast)) =
          some rejection ∧
        rejection.issues = settings.cut (s.check document [] settings.failFast) ∧
        (settings.failFast = false → settings.maxIssues = none →
          Issue.errorText rejection.issues = Issue.errorText refusal.issues)) ∧
    (∀ looser : Settings, looser.failFast = settings.failFast → settings.CapLE looser →
      (s.validate document settings).1.issues <+: (s.validate document looser).1.issues ∧
      Issue.messages (s.validate document settings).1.issues <+:
        Issue.messages (s.validate document looser).1.issues) := by
  refine ⟨?_, ?_, ?_, ?_, ?_⟩
  · cases h : s.accepts document with
    | true => simp [validate_of_accepts h]
    | false => simp [validate_of_refused h]
  · cases h : s.accepts document with
    | true => simp [decode_of_accepts h]
    | false => simp [decode_of_refused h]
  · cases h : s.accepts document with
    | true => simp [guardField_of_accepts h]
    | false => simp [guardField_of_refused h]
  · intro h
    have hissues := issues_validate s document settings
    rw [validate_of_refused h, Verdict.issues, Verdict.fold, id] at hissues
    have hcut := settings.cut_ne_nil ((check_ne_nil_iff [] settings.failFast).mpr h)
    refine ⟨_, _, _, validate_of_refused h, decode_of_refused h, guardField_of_refused h, hcut, ?_,
      hissues, ?_⟩
    · rw [Rejection.ofIssues?_of_ne_nil hcut]
      congr
      exact hissues.symm
    · intro hmode hcap
      rw [hcap, Rejection.capped, hmode]
  · intro looser hmode hcap
    have hissues := issues_validate_prefix_looser s document hmode hcap
    exact ⟨hissues, Issue.messages_prefix_messages hissues⟩

end GeoSchema
