import SocTriage.Scorability
import SocTriage.UnchangedEnrichment

/-!
The bounds of an assessment. The validators keep each counted factor under its maximum by
the engine's own caps. Three factors read their points from a table of the policy and are
not capped: the severity bands, the asset bands and the enrichment credit, of which the
last two may also be negative.
-/
namespace SocTriage.ScoreBounds
open Policies Scoring Scorability

/-- The bands of the policy that a score lies in. -/
def containing (policy : ScoringPolicy) (score : Nat) : List TierBand :=
  policy.tiers.filter (fun band => band.min ≤ score ∧ score ≤ band.max)

/-- Bounded factors, their clamped sum, and the one tier band of that sum. -/
structure WellScored (policy : ScoringPolicy) (risk : RiskAssessment) : Prop where
  bounded : ∀ factor ∈ risk.factors, Bounded factor
  total : (risk.score : Int) = max 0 (min 100 (risk.factors.map ScoreFactor.points).sum)
  banded : (containing policy risk.score).map TierBand.name = [risk.tier]

instance (policy : ScoringPolicy) (risk : RiskAssessment) : Decidable (WellScored policy risk) :=
  decidable_of_iff ((∀ factor ∈ risk.factors, Bounded factor) ∧
      (risk.score : Int) = max 0 (min 100 (risk.factors.map ScoreFactor.points).sum) ∧
      (containing policy risk.score).map TierBand.name = [risk.tier])
    ⟨fun ⟨bounded, total, banded⟩ => ⟨bounded, total, banded⟩, fun ok => ⟨ok.bounded, ok.total, ok.banded⟩⟩

/-! ### The tier -/

private theorem cover_from {expected : Nat} {seen : List RiskTier} {bands : List TierBand}
    (cover : Cover expected seen bands) :
    ∀ band ∈ bands, expected ≤ band.min := by
  induction bands generalizing expected seen with
  | nil => intro band member; cases member
  | cons first rest ih =>
    obtain ⟨_, start, ordered, later⟩ := cover
    intro band member
    rcases List.mem_cons.mp member with same | among
    · rw [same, start]
    · have after := ih later band among
      omega

/-- The bands from `expected` on part the scores from there to 100. -/
private theorem cover_one {expected : Nat} {seen : List RiskTier} {bands : List TierBand} (cover : Cover expected seen bands)
    {score : Nat} (from_here : expected ≤ score) (clipped : score ≤ 100) :
    ∃ band, bands.filter (fun band => band.min ≤ score ∧ score ≤ band.max) = [band] := by
  induction bands generalizing expected seen with
  | nil => rw [Cover] at cover; omega
  | cons first rest ih =>
    obtain ⟨_, start, ordered, later⟩ := cover
    by_cases inside : score ≤ first.max
    · have others : rest.filter (fun band => band.min ≤ score ∧ score ≤ band.max) = [] := by
        rw [List.filter_eq_nil_iff]
        intro band among
        have after := cover_from later band among
        simp only [decide_eq_true_eq]
        omega
      refine ⟨first, ?_⟩
      rw [List.filter_cons_of_pos (by simp only [decide_eq_true_eq]; omega), others]
    · obtain ⟨band, one⟩ := ih later (by omega)
      refine ⟨band, ?_⟩
      rw [List.filter_cons_of_neg (by simp only [decide_eq_true_eq]; omega), one]

/-- A clipped score lies in one band, which names its tier. -/
theorem containing_tier (policy : ScoringPolicy) {score : Nat} (clipped : score ≤ 100) :
    (containing policy score).map TierBand.name = [policy.tier_for score] := by
  obtain ⟨band, one⟩ := cover_one policy.tiers_cover_0_to_100 (Nat.zero_le score) clipped
  obtain ⟨named, member, low, high, name⟩ := tier_for_band policy clipped
  have among : named ∈ containing policy score := List.mem_filter.mpr ⟨member, decide_eq_true ⟨low, high⟩⟩
  rw [containing, one] at among ⊢
  rw [name, List.mem_singleton.mp among]
  rfl

theorem clamp_le (score : Int) : clamp score ≤ 100 := by unfold clamp; omega

theorem clamp_cast (score : Int) : (clamp score : Int) = max 0 (min 100 score) := by unfold clamp; omega

/-- Every assessment has its clamped sum and its one tier; only the bounds of the factors are left. -/
theorem assessment_iff (policy : ScoringPolicy) (factors : List ScoreFactor) :
    WellScored policy (assessment policy factors) ↔ ∀ factor ∈ factors, Bounded factor := by
  constructor
  · intro ok
    exact ok.bounded
  · intro bounded
    exact ⟨bounded, clamp_cast _, containing_tier policy (clamp_le _)⟩

/-! ### The factors -/

/-- The points that the alert selects in the tables of the policy lie between nothing and the maximum of their factor, and
    the alert can be scored. -/
structure Capped (py : PyStr) (policy : ScoringPolicy) (alert : CanonicalAlert) : Prop where
  selected : Selected (fun most points => 0 ≤ points ∧ points ≤ most) py policy alert
  scorable : Scorable py policy alert

private theorem factors_bounded {py : PyStr} {policy : ScoringPolicy} {alert : CanonicalAlert} {listed : List ScoreFactor}
    (scored : factors py policy alert = some listed) :
    (∀ factor ∈ listed, Bounded factor) ↔
      Selected (fun most points => 0 ≤ points ∧ points ≤ most) py policy alert := by
  rw [forall_factors_iff scored (fun _ bounded => bounded), selected_iff (fun most => ⟨le_refl 0, Int.natCast_nonneg most⟩)]
  refine and_congr ?_ (and_congr ?_ (bounded_other (by decide)))
  · unfold rule_severity_factor
    split <;> exact bounded_other (by decide)
  · unfold asset_criticality_factor
    dsimp only
    split <;> exact bounded_other (by decide)

/-- Scoring gives an assessment with bounded factors, their clamped sum and its one tier exactly when the alert can be
    scored and the table entries that it selects are within their factors. -/
theorem well_scored_iff (py : PyStr) (policy : ScoringPolicy) (alert : CanonicalAlert) :
    (∃ risk, score_alert py policy alert = some risk ∧ WellScored policy risk) ↔ Capped py policy alert := by
  constructor
  · rintro ⟨risk, scored, ok⟩
    have scorable := scorable_iff.mp ⟨risk, scored⟩
    obtain ⟨listed, given, _, _, same⟩ := (score_alert_some py).mp scored
    rw [← same, assessment_iff, factors_bounded given] at ok
    exact ⟨ok, scorable⟩
  · rintro ⟨selected, scorable⟩
    obtain ⟨risk, scored⟩ := scorable_iff.mpr scorable
    obtain ⟨listed, given, _, _, same⟩ := (score_alert_some py).mp scored
    refine ⟨risk, scored, ?_⟩
    rw [← same, assessment_iff, factors_bounded given]
    exact selected

/-- The policy of `scoring.yaml`, but for points that a failed enrichment takes off. -/
def penalized : ScoringPolicy :=
  { UnchangedEnrichment.scoring_yaml with
    enrichment_status := { max := 5, points := ⟨[("complete", 5), ("failed", -10)], by decide⟩ } }

/-- A login failure whose enrichment failed. -/
def unenriched : CanonicalAlert where
  alert_id := "a1"
  received_at := ⟨0, some 0⟩
  source_event := {
    rule := { id := "5710", level := 5, description := "sshd: invalid user" }
    agent := { id := "001", name := "web-1" } }
  enrichment_status := some "failed"

/-- The validators accept negative points, with which a factor other than the allowlist lowers the score. -/
theorem negative_credit : ¬ ∀ (py : PyStr) (policy : ScoringPolicy) (alert : CanonicalAlert),
    ∃ risk, score_alert py policy alert = some risk ∧ WellScored policy risk := by
  intro always
  obtain ⟨risk, scored, ok⟩ := always UnchangedEnrichment.ascii penalized unenriched
  have given : (score_alert UnchangedEnrichment.ascii penalized unenriched).map (fun risk =>
      decide (WellScored penalized risk)) = some false := by decide
  rw [scored, Option.map_some, decide_eq_true ok] at given
  cases given

end SocTriage.ScoreBounds
