import SocTriage.Assessment
import SocTriage.Decisions
import SocTriage.Ingest

/-!
Decisions to open an incident that come without a severity. The tiers of a policy are validated
to give one; the action for allowlisted alerts is not, and where it is to open an incident the
assessment of an allowlisted alert raises.
-/
namespace SocTriage.MissingSeverity
open Assessment Incidents Decisions

/-- What `persist_assessment` raises for want of a severity. -/
def MISSING_SEVERITY : Error := .value "open_incident decision is missing a severity"

/-! ### When an assessment raises it -/

private theorem next_id_other {ids : List String} {occurred_at : Int} :
    Raises (· ≠ MISSING_SEVERITY) (next_sequence_id "INC" ids occurred_at) := by
  intro e failed
  unfold next_sequence_id at failed
  dsimp only at failed
  split at failed
  · cases failed
  · split at failed
    · cases failed
      intro same
      have texts := congrArg String.toList (Error.value.inj same)
      simp at texts
    · cases failed

private theorem link_alert_other {db : Database} {alert_id : UUID} {incident_id : String} :
    Raises (· ≠ MISSING_SEVERITY) (link_alert db alert_id incident_id) := by
  intro e failed
  unfold link_alert at failed
  split at failed
  · cases failed; exact Error.noConfusion
  · cases failed

private theorem create_other {db : Database} {alert_id : UUID} {severity : DecisionSeverity} {dedupe_group_key : String}
    {occurred_at : Int} : Raises (· ≠ MISSING_SEVERITY) (create db alert_id severity dedupe_group_key occurred_at) := by
  unfold create
  split
  · intro e failed; cases failed; exact Error.noConfusion
  · refine raises_bind next_id_other (fun incident_id _ => ?_)
    split
    · intro e failed; cases failed; exact Error.noConfusion
    · exact raises_bind link_alert_other (fun db _ => raises_ok _)

/-- The incident part of an assessment raises it exactly when there is no open incident to join and no severity. -/
private theorem open_or_attach_raises {request : Request} {db : Database} :
    open_or_attach request db = .error MISSING_SEVERITY ↔
      open_for_group db request.dedupe_group_key = none ∧ request.decision.severity = none := by
  unfold open_or_attach
  cases open_for_group db request.dedupe_group_key with
  | none =>
    dsimp only
    cases given : request.decision.severity with
    | none => exact iff_of_true rfl ⟨rfl, rfl⟩
    | some severity =>
      refine iff_of_false (fun failed => ?_) (by rintro ⟨-, ⟨⟩⟩)
      exact raises_bind create_other (fun _ _ => raises_ok _) MISSING_SEVERITY failed rfl
  | some existing =>
    refine iff_of_false (fun failed => ?_) (by rintro ⟨⟨⟩, -⟩)
    have other : Raises (· ≠ MISSING_SEVERITY) (attach db request.alert_id existing.incident_id) := by
      intro e failed
      unfold attach at failed
      split at failed
      · cases failed; exact Error.noConfusion
      · exact link_alert_other e failed
    exact raises_bind other (fun _ _ => raises_ok _) MISSING_SEVERITY failed rfl

/-- An assessment raises it exactly for a stored alert that is to open an incident without a severity, while its group
    has no open one. -/
theorem persist_assessment_raises_iff {request : Request} {fault : Bool} {db : Database} :
    (persist_assessment request fault db).1 = .error MISSING_SEVERITY ↔
      fault = false ∧ (∃ alert, db.alerts.get request.alert_id = some alert) ∧
        request.decision.action = .OPEN_INCIDENT ∧ open_for_group db request.dedupe_group_key = none ∧
        request.decision.severity = none := by
  have raised : (persist_assessment request fault db).1 = .error MISSING_SEVERITY ↔
      fault = false ∧ assess request db = .error MISSING_SEVERITY := by
    unfold persist_assessment
    cases fault with
    | true => exact iff_of_false (by rintro ⟨⟩) (by rintro ⟨⟨⟩, -⟩)
    | false =>
      simp only [Bool.false_eq_true, ↓reduceIte, true_and]
      cases executed : assess request db with
      | ok value => rw [Database.session_scope_ok executed]; exact iff_of_false (by rintro ⟨⟩) (by rintro ⟨⟩)
      | error e => rw [Database.session_scope_error executed]; cases e <;> simp [MISSING_SEVERITY]
  rw [raised]
  refine and_congr_right (fun _ => ?_)
  unfold assess update_normalized_payload
  cases found : db.alerts.get request.alert_id with
  | none => exact iff_of_false (by rintro ⟨⟩) (by rintro ⟨⟨_, ⟨⟩⟩, -⟩)
  | some alert =>
    by_cases asked : request.decision.action = .OPEN_INCIDENT
    · have part : (if request.decision.action = .OPEN_INCIDENT then open_or_attach request (scored request db)
          else Except.ok (none, scored request db)) = .error MISSING_SEVERITY ↔
          open_for_group db request.dedupe_group_key = none ∧ request.decision.severity = none := by
        rw [if_pos asked]; exact open_or_attach_raises
      refine part.trans ⟨fun missing => ⟨⟨alert, rfl⟩, asked, missing⟩, fun missing => missing.2.2⟩
    · have part : (if request.decision.action = .OPEN_INCIDENT then open_or_attach request (scored request db)
          else Except.ok (none, scored request db)) ≠ .error MISSING_SEVERITY := by
        rw [if_neg asked]; rintro ⟨⟩
      exact iff_of_false part (fun missing => asked missing.2.1)

/-! ### Which policies lead there -/

/-- A decision to open an incident has a severity, and no assessment made on the decision raises for want of one. -/
def Equipped (decision : Decision) : Prop :=
  (decision.action = .OPEN_INCIDENT → decision.severity ≠ none) ∧
    ∀ (request : Request) (fault : Bool) (db : Database), request.decision = decision →
      (persist_assessment request fault db).1 ≠ .error MISSING_SEVERITY

/-- Every decision is equipped, except on an allowlisted alert under a policy that has those open incidents. -/
theorem decide_equipped_iff (policy : DecisionPolicy) (risk : RiskAssessment) (alert : CanonicalAlert)
    (decided_at : Datetime) :
    Equipped (Decisions.decide policy risk alert decided_at) ↔
      (is_allowlisted alert = true → policy.allowlisted_action ≠ .OPEN_INCIDENT) := by
  have severity : ((Decisions.decide policy risk alert decided_at).action = .OPEN_INCIDENT →
      (Decisions.decide policy risk alert decided_at).severity ≠ none) ↔
        (is_allowlisted alert = true → policy.allowlisted_action ≠ .OPEN_INCIDENT) := by
    unfold Decisions.decide
    cases is_allowlisted alert with
    | true => exact ⟨fun given _ opens => given opens rfl, fun other opens => absurd opens (other rfl)⟩
    | false =>
      exact iff_of_true (policy.tier_actions risk.tier).severity_consistency.mp (fun listed => Bool.noConfusion listed)
  refine ⟨fun equipped => severity.mp equipped.1, fun allowed => ⟨severity.mpr allowed, ?_⟩⟩
  intro request fault db taken raised
  obtain ⟨-, -, opens, -, missing⟩ := persist_assessment_raises_iff.mp raised
  rw [taken] at opens missing
  exact severity.mpr allowed opens missing

/-! ### A policy that opens incidents for allowlisted alerts -/

private theorem watchful_consistent : DecisionAction.MONITOR = .OPEN_INCIDENT ↔ (none : Option DecisionSeverity) ≠ none := by
  decide

/-- Every tier is only monitored. -/
def watchful : DecisionPolicy where
  tier_actions _ := { action := .MONITOR, severity_consistency := watchful_consistent }
  allowlisted_action := .OPEN_INCIDENT

/-- An alert with an address that the allowlist provider matched. -/
def allowlisted_login : CanonicalAlert :=
  { (Ingest.failed_login_delivery "a1" 0).canonical with
    iocs := [{
      type := .IPV4, value := "203.0.113.7"
      enrichment := Table.empty.put ("allowlist", [("matched", .bool true)]) }] }

/-- The decision on it is to open an incident of no severity. -/
theorem allowlisted_incident_unequipped :
    ¬ ∀ (policy : DecisionPolicy) (risk : RiskAssessment) (alert : CanonicalAlert) (decided_at : Datetime),
      Equipped (Decisions.decide policy risk alert decided_at) := by
  intro always
  exact (always watchful { score := 0, tier := .LOW, engine_version := "scoring.v2", factors := [], summary := "" }
    allowlisted_login (Datetime.of_instant 0)).1 rfl rfl

end SocTriage.MissingSeverity
