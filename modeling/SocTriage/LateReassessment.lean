import SocTriage.DuplicateDelivery

/-!
When a late reassessment is stored. A new decision that opens an incident needs an open
incident of the group to join, or a new one, which an alert can be the first of only once.
-/
namespace SocTriage.LateReassessment
open Incidents Assessment Enrichment LateEnrichment
open Ingest (Pipeline)
open Notifications (N8N)

/-! ### The reassessment -/

/-- The alert with its fresh enrichment, as it is scored and decided on. -/
def fresh (self : LateEnrichmentService) (row : Alert) : CanonicalAlert :=
  enriched row.normalized_payload (enrich self.enrichment_chain row.normalized_payload.iocs)

/-- The decision on the fresh enrichment. -/
def fresh_decision (self : LateEnrichmentService) (row : Alert) (decided_at : Option Datetime) : Decision :=
  self.decider (self.scorer (fresh self row)) (fresh self row) (decided_at.getD row.normalized_payload.received_at)

/-- The reassessment is reported as persisted, and the alert row holds the new indicators, risk and decision. -/
def Persists (self : LateEnrichmentService) (row : Alert) (decided_at : Option Datetime) (db : Database) : Prop :=
  ∃ result incident_id db', reassess_persisted_if_changed self row.alert_id decided_at {} db =
      (.ok (some (result, ⟨incident_id, true⟩)), db') ∧
    ∃ row', db'.alerts.get row.alert_id = some row' ∧ row'.normalized_payload =
      { fresh self row with
        risk := some (self.scorer (fresh self row)), decision := some (fresh_decision self row decided_at) }

/-- In every reachable state, the changed enrichment of a stored alert is stored with its score and decision exactly when
    the decision opens no incident, or the group of the alert has an open one, or the alert can have a new one. -/
theorem persists_iff (pipeline : Pipeline) (n8n : N8N) (events : List Service.Event) (self : LateEnrichmentService)
    (decided_at : Option Datetime) {alert_id : UUID} {row : Alert}
    (stored : (Service.after pipeline n8n events).db.alerts.get alert_id = some row)
    (differs : enrichment_fingerprint (enrich self.enrichment_chain row.normalized_payload.iocs).iocs ≠
      enrichment_fingerprint row.normalized_payload.iocs) :
    Persists self row decided_at (Service.after pipeline n8n events).db ↔
      Admits (Service.after pipeline n8n events).db alert_id row.dedupe_group_key (fresh_decision self row decided_at)
        (decided_at.getD row.normalized_payload.received_at).instant := by
  have numbered := (Service.after_steady pipeline n8n events).numbered
  generalize (Service.after pipeline n8n events).db = db at stored numbered ⊢
  have key : row.alert_id = alert_id := Table.get_key stored
  subst key
  obtain ⟨request, changes, alert_id, group_key, decision, occurred_at, canonical⟩ : ∃ request,
      changed self row decided_at = some request ∧ request.alert_id = row.alert_id ∧
      request.dedupe_group_key = row.dedupe_group_key ∧ request.decision = fresh_decision self row decided_at ∧
      request.occurred_at = (decided_at.getD row.normalized_payload.received_at).instant ∧
      request.canonical = { fresh self row with
        risk := some (self.scorer (fresh self row)), decision := some (fresh_decision self row decided_at) } := by
    refine ⟨_, by rw [changed]; exact if_neg differs, rfl, rfl, rfl, rfl, rfl⟩
  rw [← alert_id, ← group_key, ← decision, ← occurred_at]
  have found : db.alerts.get request.alert_id = some row := by rw [alert_id]; exact stored
  have commits := (@persist_assessment_iff db row request false numbered found).trans (and_iff_right rfl)
  rw [← commits]
  unfold Persists
  rcases persist_assessment_cases request false db with ⟨incident_id, db', same, _, executed⟩ | ⟨result, same, never⟩
  · refine iff_of_true ⟨⟨request.canonical, request.previous_risk, request.previous_decision⟩, incident_id, db', ?_,
      assessed_row request incident_id row, ?_, canonical⟩ ⟨incident_id, by rw [same]⟩
    · rw [reassess_persisted_if_changed, stored]
      dsimp only
      rw [changes]
      dsimp only
      rw [same]
      rfl
    · rw [(assess_ok executed).2.alerts, if_pos alert_id.symm, found]
      rfl
  · refine iff_of_false ?_ ?_
    · rintro ⟨reported, incident_id, db', given, _⟩
      rw [reassess_persisted_if_changed, stored] at given
      dsimp only at given
      rw [changes] at given
      dsimp only at given
      rw [same] at given
      cases result with
      | error e => cases given
      | ok persistence =>
        cases given
        exact never incident_id rfl
    · rintro ⟨incident_id, done⟩
      rw [same] at done
      exact never incident_id done

/-- A VirusTotal of which a number of engines flag every address. -/
def flagging (malicious : Int) : Provider :=
  HTTPProvider.provider {
    name := "virustotal"
    handled_types := [.IPV4, .DOMAIN, .URL, .MD5, .SHA1, .SHA256]
    sanitize := fun _ _ => .metadata [("malicious", .int malicious)]
    upstream := fun _ => .response 200 (some (.obj []))
    now := fun _ => "1970-01-01T00:00:00+00:00" }

/-- An attack on a critical asset from one address, which three engines flag. -/
def attack : Service.Event :=
  .ingest { Ingest.failed_login_delivery "a1" 0 with
    iocs := [{ type := .IPV4, value := "203.0.113.7" }]
    asset := some { tier := some "critical" }
    source_event := {
      rule := { id := "5710", level := 12, description := "sshd: invalid user" }
      agent := { id := "001", name := "web-1" } } } [flagging 3] {} {}

/-- An analyst closes its incident. -/
def dismissed : Service.Event :=
  .update { incident_id := "INC-1970-01-01-0001", status := .FALSE_POSITIVE, occurred_at := 60000000 } false

/-- The policies of the shipped configuration, with twelve engines. -/
def twelve_engines : LateEnrichmentService :=
  UnchangedEnrichment.service UnchangedEnrichment.ascii UnchangedEnrichment.scoring_yaml UnchangedEnrichment.decisions_yaml
    [flagging 12]

/-- What the service has stored of the attack after some events. -/
def stored_attack (events : List Service.Event) : Option Alert :=
  (Service.after UnchangedEnrichment.shipped DuplicateDelivery.accepting events).db.alerts.get "a1"

/-- While its incident is open, the attack is assessed again. -/
theorem open_attack_persists :
    ∃ row, stored_attack [attack] = some row ∧ Persists twelve_engines row none
      (Service.after UnchangedEnrichment.shipped DuplicateDelivery.accepting [attack]).db := by
  refine ⟨_, rfl, ?_⟩
  refine (@persists_iff UnchangedEnrichment.shipped DuplicateDelivery.accepting [attack] twelve_engines none "a1" _ rfl
    (by decide)).mpr (fun _ => .inl ?_)
  decide

/-- Whether a reassessment reports its assessment as persisted. -/
def reported : Except Error (Option (LateEnrichmentResult × AssessmentPersistResult)) → Option Bool
  | .ok (some (_, persistence)) => some persistence.persisted
  | _ => none

/-- Once its incident is closed, the group has no open one, and the attack cannot be the first alert of a second incident:
    what twelve engines say is lost. -/
theorem closed_attack_lost : ¬ ∀ (pipeline : Pipeline) (n8n : N8N) (events : List Service.Event)
    (self : LateEnrichmentService) (decided_at : Option Datetime) (alert_id : UUID) (row : Alert),
    (Service.after pipeline n8n events).db.alerts.get alert_id = some row → row.normalized_payload.risk ≠ none →
    enrichment_fingerprint (enrich self.enrichment_chain row.normalized_payload.iocs).iocs ≠
      enrichment_fingerprint row.normalized_payload.iocs →
    Persists self row decided_at (Service.after pipeline n8n events).db := by
  intro always
  obtain ⟨result, incident_id, db', given, _⟩ := always UnchangedEnrichment.shipped DuplicateDelivery.accepting
    [attack, dismissed] twelve_engines none "a1" _ rfl (by decide) (by decide)
  have lost : reported (reassess_persisted_if_changed twelve_engines "a1" none {}
      (Service.after UnchangedEnrichment.shipped DuplicateDelivery.accepting [attack, dismissed]).db).1 = some false := by
    decide
  have told : some false = some true := lost.symm.trans (congrArg (fun outcome => reported outcome.1) given)
  exact absurd told (by decide)

end SocTriage.LateReassessment
