import SocTriage.LateReassessment
import SocTriage.Recomputation
import SocTriage.ScoreBounds

/-!
The explanation of an alert: its score, its decision, its incident and its audit history, told from
what is stored. The layer never scores again; over every run of the service it need not, since what
it tells is what scoring the stored alert again would give, and the arithmetic it checks holds.
-/
namespace SocTriage.ExplanationSections
open Ingest (Pipeline)
open Notifications (N8N)
open Policies Scoring
open Recomputation (Configured Recomputed after_recomputed)
open UnitsOfWork (Engaged)

/-! ### The score -/

inductive FactorKind where
  | positive | zero | negative
deriving DecidableEq, Repr

def factor_kind (points : Int) : FactorKind := if 0 < points then .positive else if points < 0 then .negative else .zero

structure ExplanationScoreFactorRead where
  name : String
  points : Int
  max : Nat
  detail : String
  kind : FactorKind
deriving DecidableEq

structure ExplanationScoreRead where
  policy_version : Option String := none
  score : Nat
  tier : String
  severity : Option String := none
  degraded : Bool := false
  summary : String
  factors : List ExplanationScoreFactorRead := []
  factor_points_total : Int := 0
  reconciles : Bool := true
  notes : List String := []
deriving DecidableEq

def factor_read (factor : ScoreFactor) : ExplanationScoreFactorRead where
  name := factor.name
  points := factor.points
  max := factor.max
  detail := factor.detail
  kind := factor_kind factor.points

def DEGRADED_NOTE : String :=
  "assessment is the degraded rule-severity-only fallback (the full scoring engine failed at scoring time)"

def clipped_note (total : Int) : String := "raw factor sum " ++ toString total ++ " clipped to the 0-100 score contract"

def DEVIATION_NOTE : String := "stored score does not equal the clipped factor sum; the stored score is authoritative"

def score_section (record : Alert) : Option ExplanationScoreRead :=
  record.normalized_payload.risk.map (fun risk =>
    let total := (risk.factors.map ScoreFactor.points).sum
    let reconciles : Bool := risk.score = clamp total
    { policy_version := some risk.engine_version
      score := risk.score
      tier := risk.tier.value
      severity := record.normalized_payload.decision.bind (fun decision => decision.severity.map DecisionSeverity.value)
      degraded := risk.degraded
      summary := risk.summary
      factors := risk.factors.map factor_read
      factor_points_total := total
      reconciles
      notes := (if risk.degraded then [DEGRADED_NOTE] else []) ++
        (if total ≠ risk.score ∧ reconciles then [clipped_note total] else []) ++
        (if reconciles then [] else [DEVIATION_NOTE]) })

/-! ### The decision -/

/-- The version of the decision policy is not stored. -/
structure ExplanationDecisionRead where
  policy_version : Option String := none
  action : String
  severity : Option String := none
  reasons : List String := []
  runbook : Option String := none
  decided_at : Option String := none
deriving DecidableEq

def decision_section (record : Alert) : Option ExplanationDecisionRead :=
  record.normalized_payload.decision.map (fun decision =>
    { action := decision.action.value
      severity := decision.severity.map DecisionSeverity.value
      reasons := decision.reasons
      runbook := decision.runbook
      decided_at := some decision.decided_at.isoformat })

/-! ### Authority -/

section
variable (py : PyStr) (scoring : ScoringPolicy) (decisions : Decisions.DecisionPolicy)

/-- What the engines give is degraded exactly when scoring raises; it adds up, and its tier is that of its score. -/
structure Adds (payload : CanonicalAlert) (risk : RiskAssessment) : Prop where
  total : risk.score = clamp (risk.factors.map ScoreFactor.points).sum
  tier : risk.tier = scoring.tier_for risk.score
  version : risk.engine_version = scoring.engine_version
  degraded : risk.degraded = (score_alert py scoring payload).isNone

private theorem score_adds (payload : CanonicalAlert) : Adds py scoring payload (score py scoring payload) := by
  rw [score]
  cases scored : score_alert py scoring payload with
  | none =>
    rw [Option.getD_none]
    exact ⟨by rw [degraded_score]; simp, rfl, rfl, by rw [scored]; rfl⟩
  | some risk =>
    rw [Option.getD_some]
    obtain ⟨factors, _, rfl⟩ := Option.map_eq_some_iff.mp scored
    exact ⟨rfl, rfl, rfl, by rw [scored]; rfl⟩

/-- Sections that tell what the engines would say of the stored alert today, that it adds up, and why it was routed so; no
    engine names a runbook. -/
structure Authoritative (payload : CanonicalAlert) (read : ExplanationScoreRead)
    (decided : ExplanationDecisionRead) : Prop where
  again : ∃ risk, risk = score py scoring payload ∧ read.score = risk.score ∧ read.tier = risk.tier.value ∧
    read.factors = risk.factors.map factor_read ∧ read.summary = risk.summary ∧ read.degraded = risk.degraded
  degraded : read.degraded = (score_alert py scoring payload).isNone
  version : read.policy_version = some scoring.engine_version
  total : read.factor_points_total = (read.factors.map ExplanationScoreFactorRead.points).sum
  clipped : (read.score : Int) = max 0 (min 100 read.factor_points_total)
  reconciles : read.reconciles = true
  notes : read.notes = (if read.degraded then [DEGRADED_NOTE] else []) ++
    (if read.factor_points_total < 0 ∨ 100 < read.factor_points_total then [clipped_note read.factor_points_total] else [])
  routed : (decided.action, decided.severity) =
    if Decisions.is_allowlisted payload then (decisions.allowlisted_action.value, none)
    else
      let tier_decision := decisions.tier_actions (scoring.tier_for read.score)
      (tier_decision.action.value, tier_decision.severity.map DecisionSeverity.value)
  severity : read.severity = decided.severity
  reasons : decided.reasons =
    if Decisions.is_allowlisted payload then ["allowlisted indicator present; suppressed regardless of score"]
    else ("score=" ++ toString read.score ++ " tier=" ++ read.tier) ::
      (decided.severity.map (fun severity => "severity=" ++ severity)).toList
  runbook : decided.runbook = none

private theorem sections_authoritative {alert : Alert} {risk : RiskAssessment} {decided_at : Datetime}
    (scored : alert.normalized_payload.risk = some (score py scoring alert.normalized_payload))
    (decided : alert.normalized_payload.decision = some (Decisions.decide decisions
      (score py scoring alert.normalized_payload) alert.normalized_payload decided_at))
    (made : risk = score py scoring alert.normalized_payload) :
    ∃ read decision, score_section alert = some read ∧ decision_section alert = some decision ∧
      Authoritative py scoring decisions alert.normalized_payload read decision := by
  obtain ⟨total, tier, version, degraded⟩ := score_adds py scoring alert.normalized_payload
  rw [← made] at total tier version degraded scored decided
  refine ⟨_, _, by rw [score_section, scored]; rfl, by rw [decision_section, decided]; rfl, ?_⟩
  have sums : ((risk.factors.map factor_read).map ExplanationScoreFactorRead.points).sum =
      (risk.factors.map ScoreFactor.points).sum := by rw [List.map_map]; rfl
  have clip := ScoreBounds.clamp_cast (risk.factors.map ScoreFactor.points).sum
  refine ⟨⟨risk, made, rfl, rfl, rfl, rfl, rfl⟩, degraded, congrArg some version, sums.symm, ?_,
    decide_eq_true total, ?_, ?_, ?_, ?_, ?_⟩
  · dsimp only
    rw [total]
    exact clip
  · dsimp only
    rw [decide_eq_true total, if_pos rfl, List.append_nil]
    congr 1
    have deviates : ((risk.factors.map ScoreFactor.points).sum ≠ (risk.score : Int) ∧ true = true) ↔
        (risk.factors.map ScoreFactor.points).sum < 0 ∨ 100 < (risk.factors.map ScoreFactor.points).sum := by
      rw [and_iff_left rfl, total, clip]
      omega
    exact if_congr deviates rfl rfl
  · dsimp only
    rw [Decisions.decide, ← tier]
    split <;> rfl
  · dsimp only
    rw [decided]
    rfl
  · dsimp only
    rw [Decisions.decide]
    split
    · rfl
    · dsimp only
      cases (decisions.tier_actions risk.tier).severity <;> rfl
  · dsimp only
    rw [Decisions.decide]
    split <;> rfl

/-- Whatever was delivered, assessed again, answered or closed in whatever order: an explanation tells of no score and no
    decision, or of those that the engines would give the stored alert, and the score it tells of reconciles. -/
theorem explanations_authoritative {pipeline : Pipeline}
    (own : Configured py scoring decisions pipeline.score pipeline.decide) (n8n : N8N) {events : List Service.Event}
    (engaged : ∀ event ∈ events, Engaged (Configured py scoring decisions) event) :
    ∀ alert ∈ (Service.after pipeline n8n events).db.alerts.rows,
      (score_section alert = none ∧ decision_section alert = none) ∨
      ∃ read decision, score_section alert = some read ∧ decision_section alert = some decision ∧
        Authoritative py scoring decisions alert.normalized_payload read decision := by
  intro alert inside
  rcases after_recomputed py scoring decisions own n8n engaged alert inside with
    ⟨unscored, undecided⟩ | ⟨scored, decided_at, decided⟩
  · exact .inl ⟨by rw [score_section, unscored]; rfl, by rw [decision_section, undecided]; rfl⟩
  · exact .inr (sections_authoritative py scoring decisions scored decided rfl)
end

/-- The shipped policies score an attack, and again once twelve engines know the address. -/
def attack_reassessed : List Service.Event :=
  [LateReassessment.attack, .reassess {
    lookback_seconds := 86400, as_of := Datetime.of_instant 60000000, service := fun _ => LateReassessment.twelve_engines }]

theorem attack_authoritative :
    ∃ alert ∈ (Service.after UnchangedEnrichment.shipped DuplicateDelivery.accepting attack_reassessed).db.alerts.rows,
      ∃ read decision, score_section alert = some read ∧ decision_section alert = some decision ∧
        Authoritative UnchangedEnrichment.ascii UnchangedEnrichment.scoring_yaml UnchangedEnrichment.decisions_yaml
          alert.normalized_payload read decision := by
  have scored : ((Service.after UnchangedEnrichment.shipped DuplicateDelivery.accepting attack_reassessed).db.alerts.rows.any
      (fun alert => (score_section alert).isSome)) = true := by decide +kernel
  obtain ⟨alert, stored, told⟩ := List.any_eq_true.mp scored
  refine ⟨alert, stored, ?_⟩
  rcases @explanations_authoritative UnchangedEnrichment.ascii UnchangedEnrichment.scoring_yaml
    UnchangedEnrichment.decisions_yaml UnchangedEnrichment.shipped ⟨rfl, rfl⟩ DuplicateDelivery.accepting attack_reassessed
    (List.forall_mem_cons.mpr ⟨trivial, List.forall_mem_singleton.mpr (fun _ => ⟨rfl, rfl⟩)⟩) alert stored with
    ⟨untold, -⟩ | authoritative
  · rw [untold] at told
    exact absurd told Bool.false_ne_true
  · exact authoritative

end SocTriage.ExplanationSections
