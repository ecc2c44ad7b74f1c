import SocTriage.Canonical

/-!
The decision engine: the action of a tier, or the one for allowlisted alerts. An action
opens an incident exactly when it comes with a severity, except that the policy may name
any action for allowlisted alerts, and those have none.
-/
namespace SocTriage.Decisions

structure TierDecision where
  action : DecisionAction
  severity : Option DecisionSeverity := none
  severity_consistency : action = .OPEN_INCIDENT ↔ severity ≠ none := by decide

/-- Every tier has its entry. -/
structure DecisionPolicy where
  tier_actions : RiskTier → TierDecision
  allowlisted_action : DecisionAction := .SUPPRESS

def is_allowlisted (alert : CanonicalAlert) : Bool := alert.iocs.any ioc_is_allowlisted

/-- `DecisionEngine.decide`. -/
protected def decide (policy : DecisionPolicy) (risk : RiskAssessment) (alert : CanonicalAlert) (decided_at : Datetime) :
    Decision :=
  if is_allowlisted alert then
    { action := policy.allowlisted_action, decided_at
      reasons := ["allowlisted indicator present; suppressed regardless of score"] }
  else
    let tier_decision := policy.tier_actions risk.tier
    { action := tier_decision.action, severity := tier_decision.severity, decided_at
      reasons := ("score=" ++ toString risk.score ++ " tier=" ++ risk.tier.value) ::
        (match tier_decision.severity with | none => [] | some severity => ["severity=" ++ severity.value]) }

/-- Where an alert goes: the action and the severity of its decision. -/
def route (decision : Decision) : DecisionAction × Option DecisionSeverity := (decision.action, decision.severity)

/-- The route of an alert is decided by its tier and by whether it is allowlisted. -/
theorem route_decide (policy : DecisionPolicy) {risk risk' : RiskAssessment} {alert alert' : CanonicalAlert}
    (tier : risk.tier = risk'.tier) (allowlisted : is_allowlisted alert = is_allowlisted alert')
    (at_first at_last : Datetime) :
    route (Decisions.decide policy risk alert at_first) = route (Decisions.decide policy risk' alert' at_last) := by
  rw [Decisions.decide, Decisions.decide, allowlisted, tier]
  cases is_allowlisted alert' <;> rfl

end SocTriage.Decisions
