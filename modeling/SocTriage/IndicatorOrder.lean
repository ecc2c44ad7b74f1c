import SocTriage.Enrichment
import SocTriage.Evidence
import SocTriage.Scoring
import SocTriage.UnchangedEnrichment

/-!
The order of an alert's indicators. The factors that look at them count them, ask whether any
of them has a property, or go through them sorted by key; so indicators with distinct keys are
scored alike in every order.
-/
namespace SocTriage.IndicatorOrder
open Scoring Policies Enrichment

section
variable {iocs iocs' : List IOC}

private theorem intel_tally_perm (py : PyStr) (cfg : ThreatIntelConfig) (distinct : Distinct iocs)
    (perm : iocs'.Perm iocs) : intel_tally py iocs' cfg = intel_tally py iocs cfg := by
  rw [intel_tally, by_ioc_key_perm distinct perm, intel_tally]

theorem threat_intel_factor_perm (py : PyStr) (cfg : ThreatIntelConfig) (distinct : Distinct iocs) (perm : iocs'.Perm iocs) :
    threat_intel_factor py iocs' cfg = threat_intel_factor py iocs cfg := by
  rw [threat_intel_factor, threat_intel_factor, intel_tally_perm py cfg distinct perm]

theorem ioc_evidence_factor_perm (cfg : IocEvidenceConfig) (perm : iocs'.Perm iocs) :
    ioc_evidence_factor iocs' cfg = ioc_evidence_factor iocs cfg := by
  have types : ((iocs'.map (fun ioc => ioc.type.value)).dedup).insertionSort (· ≤ ·) =
      ((iocs.map (fun ioc => ioc.type.value)).dedup).insertionSort (· ≤ ·) :=
    Evidence.sorted_set_congr (fun _ => (perm.map _).mem_iff)
  rw [ioc_evidence_factor, ioc_evidence_factor, perm.length_eq, types]

theorem allowlist_factor_perm (cfg : AllowlistConfig) (perm : iocs'.Perm iocs) :
    allowlist_factor iocs' cfg = allowlist_factor iocs cfg := by
  have found : iocs'.any ioc_is_allowlisted = iocs.any ioc_is_allowlisted := perm.any_eq
  rw [allowlist_factor, allowlist_factor, found]

end

/-- What the texts tell, and what `str` is given, does not depend on the order either. -/
private theorem printed_perm (py : PyStr) (policy : ScoringPolicy) (alert : CanonicalAlert) {iocs' : List IOC}
    (distinct : Distinct alert.iocs) (perm : iocs'.Perm alert.iocs) :
    printed py policy { alert with iocs := iocs' } = printed py policy alert := by
  have telling : told py policy { alert with iocs := iocs' } = told py policy alert := by
    unfold told
    simp only [intel_tally_perm py _ distinct perm]
  rw [printed, printed, telling, by_ioc_key_perm distinct perm]

/-- Indicators with distinct keys are scored alike in every order: the same score, tier, factors and summary. -/
theorem score_alert_perm (py : PyStr) (policy : ScoringPolicy) (alert : CanonicalAlert) (iocs' : List IOC)
    (distinct : Distinct alert.iocs) (perm : iocs'.Perm alert.iocs) :
    score_alert py policy { alert with iocs := iocs' } = score_alert py policy alert := by
  have same : factors py policy { alert with iocs := iocs' } = factors py policy alert := by
    unfold factors
    dsimp only
    rw [ioc_evidence_factor_perm policy.ioc_evidence perm, allowlist_factor_perm policy.allowlist perm]
    cases policy.threat_intel with
    | none => rfl
    | some cfg => rw [Option.map_some, Option.map_some, threat_intel_factor_perm py cfg distinct perm]
  rw [score_alert, score_alert, same, printed_perm py policy alert distinct perm]

/-- An address and a domain of an alert on failed logins. -/
def address : IOC := { type := .IPV4, value := "203.0.113.7" }
def domain : IOC := { type := .DOMAIN, value := "evil.example" }

def failed_login (iocs : List IOC) : CanonicalAlert := { (Ingest.failed_login_delivery "a1" 0).canonical with iocs }

theorem failed_login_swapped :
    score_alert UnchangedEnrichment.ascii UnchangedEnrichment.scoring_yaml (failed_login [domain, address]) =
      score_alert UnchangedEnrichment.ascii UnchangedEnrichment.scoring_yaml (failed_login [address, domain]) :=
  score_alert_perm UnchangedEnrichment.ascii UnchangedEnrichment.scoring_yaml (failed_login [address, domain])
    [domain, address] (by decide) (List.Perm.swap address domain [])

end SocTriage.IndicatorOrder
