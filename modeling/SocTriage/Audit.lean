import SocTriage.Deduplication

/-!
The audit policy: what each decision, assessment, incident step and correlation step
appends to the audit log. Entries carry small snapshots, never payloads.
-/
namespace SocTriage.Audit
open Deduplication

structure AuditEntry where
  actor : String
  action : String
  entity_type : String
  entity_id : String
  before : Option JsonObject := none
  after : Option JsonObject := none
deriving DecidableEq

def ACTION_ALERT_CREATED := "alert.created"
def ACTION_DUPLICATE_ABSORBED := "alert.duplicate_absorbed"
def ACTION_GENERATION_STARTED := "dedupe.generation_started"
def ACTION_CONTENT_DIVERGENCE := "alert.content_divergence"
def ACTION_ALERT_SCORED := "alert.scored"
def ACTION_ALERT_DECIDED := "alert.decided"
def ACTION_INCIDENT_CREATED := "incident.created"
def ACTION_INCIDENT_STATUS_UPDATED := "incident.status_updated"
def ACTION_INCIDENT_ESCALATED := "incident.escalated"
def ACTION_INCIDENT_CONTAINMENT_REQUESTED := "incident.containment_requested"
def ACTION_INCIDENT_AUTO_CLOSED := "incident.auto_closed"
def ACTION_INCIDENT_NOTE_ADDED := "incident.note_added"
def ACTION_FEEDBACK_RECEIVED := "feedback.received"
def ACTION_CORRELATION_CONTEXT_CREATED := "correlation.context_created"
def ACTION_CORRELATION_ALERT_LINKED := "correlation.alert_linked"
def ACTION_CORRELATION_CONTEXTS_MERGED := "correlation.contexts_merged"

def ENTITY_INCIDENT := "incident"
def ACTOR_SWEEPER := "system:sweeper"

/-! ### Deduplication and assessment -/

def optional_text : Option String → Json
  | none => .null
  | some text => .str text

def optional_time (time : Option Datetime) : Json := optional_text (time.map Datetime.isoformat)

def generation_snapshot (group : GroupState) : JsonObject :=
  [("generation", .int group.generation), ("occurrences", .int group.occurrences),
    ("duplicate_deliveries", .int group.duplicate_deliveries), ("first_seen", optional_time group.first_seen),
    ("last_seen", optional_time group.last_seen)]

def audit_entries_for_decision (decision : DeliveryDecision) : List AuditEntry :=
  let alert_id := decision.record.alert_id
  (if decision.generation_started then
    [{ actor := "ingest", action := ACTION_GENERATION_STARTED, entity_type := "dedupe_group"
       entity_id := decision.group.group_key
       before := decision.group_before.map generation_snapshot
       after := some (generation_snapshot decision.group) }] else []) ++
  (if decision.status ≠ .EXACT_DUPLICATE then
    [{ actor := "ingest", action := ACTION_ALERT_CREATED, entity_type := "alert", entity_id := alert_id
       after := some [("alert_id", .str alert_id), ("event_identity", .str decision.record.event_identity),
         ("dedupe_group", .str decision.group.group_key), ("dedupe_status", .str decision.status.value),
         ("occurrences", .int decision.group.occurrences), ("generation", .int decision.group.generation)] }]
  else
    [{ actor := "ingest", action := ACTION_DUPLICATE_ABSORBED, entity_type := "alert", entity_id := alert_id
       before := decision.record_before.map (fun record =>
         [("delivery_count", .int record.delivery_count),
          ("duplicate_deliveries", .int ((decision.group_before.map GroupState.duplicate_deliveries).getD 0))])
       after := some [("alert_id", .str alert_id), ("delivery_count", .int decision.record.delivery_count),
         ("duplicate_deliveries", .int decision.group.duplicate_deliveries)] }]) ++
  (if decision.content_diverged then
    [{ actor := "ingest", action := ACTION_CONTENT_DIVERGENCE, entity_type := "alert", entity_id := alert_id
       after := some [("alert_id", .str alert_id), ("dedupe_group", .str decision.group.group_key),
         ("content_variants", .int decision.record.content_variants)] }] else [])

def risk_snapshot (risk : RiskAssessment) : JsonObject :=
  [("score", .int risk.score), ("tier", .str risk.tier.value), ("engine_version", .str risk.engine_version),
    ("degraded", .bool risk.degraded),
    ("factors", .obj (risk.factors.map (fun factor => (factor.name, .int factor.points))))]

def decision_snapshot (decision : Decision) : JsonObject :=
  [("action", .str decision.action.value), ("severity", optional_text (decision.severity.map DecisionSeverity.value)),
    ("reasons", .arr (decision.reasons.map Json.str))]

def audit_entries_for_assessment (alert_id : UUID) (risk : RiskAssessment) (decision : Decision)
    (previous_risk : Option RiskAssessment) (previous_decision : Option Decision) : List AuditEntry :=
  [{ actor := "scoring", action := ACTION_ALERT_SCORED, entity_type := "alert", entity_id := alert_id
     before := previous_risk.map risk_snapshot, after := some (risk_snapshot risk) },
   { actor := "decisions", action := ACTION_ALERT_DECIDED, entity_type := "alert", entity_id := alert_id
     before := previous_decision.map decision_snapshot, after := some (decision_snapshot decision) }]

/-! ### Incidents -/

/-- `value.isoformat() if value is not None else None` of a UTC timestamp. -/
def optional_instant (time : Option Int) : Json := optional_time (time.map Datetime.of_instant)

def audit_entries_for_incident (incident : Incident) : List AuditEntry :=
  [{ actor := "decisions", action := ACTION_INCIDENT_CREATED, entity_type := ENTITY_INCIDENT
     entity_id := incident.incident_id
     after := some [("incident_id", .str incident.incident_id), ("alert_id", .str incident.primary_alert_id),
       ("severity", .str incident.severity.value), ("status", .str incident.status.value),
       ("dedupe_group_key", .str incident.dedupe_group_key)] }]

def incident_status_snapshot (incident : Incident) : JsonObject :=
  [("incident_id", .str incident.incident_id), ("status", .str incident.status.value),
    ("acknowledged_at", optional_instant incident.acknowledged_at),
    ("resolved_at", optional_instant incident.resolved_at)]

/-- `after["notes"] = notes`, when there are some. -/
def with_notes (after : JsonObject) (notes : Option String) : JsonObject :=
  match notes with
  | none => after
  | some text => if text = "" then after else after ++ [("notes", .str text)]

def audit_entries_for_incident_status (incident : Incident) (previous_status : IncidentStatus) (actor : String)
    (notes : Option String) : List AuditEntry :=
  let before : JsonObject := [("status", .str previous_status.value)]
  let after := with_notes (incident_status_snapshot incident) notes
  { actor, action := ACTION_INCIDENT_STATUS_UPDATED, entity_type := ENTITY_INCIDENT
    entity_id := incident.incident_id, before := some before, after := some after } ::
  (if incident.status = .ESCALATED then
    [{ actor, action := ACTION_INCIDENT_ESCALATED, entity_type := ENTITY_INCIDENT
       entity_id := incident.incident_id, before := some before, after := some after }] else [])

def audit_entries_for_incident_containment_request (incident_id : String) (alert_id : UUID) (actor : String) :
    List AuditEntry :=
  [{ actor, action := ACTION_INCIDENT_CONTAINMENT_REQUESTED, entity_type := ENTITY_INCIDENT
     entity_id := incident_id
     after := some [("incident_id", .str incident_id), ("alert_id", .str alert_id), ("requested_by", .str actor),
       ("state", .str "approval_required"), ("containment_executed", .bool false)] }]

/-- `round(total_seconds)` of a duration in microseconds: halves go to the even second. -/
def round_seconds (micros : Int) : Int :=
  let whole := micros / 1000000
  let rest := micros % 1000000
  if rest < 500000 ∨ (rest = 500000 ∧ whole % 2 = 0) then whole else whole + 1

def audit_entries_for_incident_auto_closed (incident : Incident) (previous_status : IncidentStatus)
    (ttl_seconds : Nat) (idle : Int) : List AuditEntry :=
  [{ actor := ACTOR_SWEEPER, action := ACTION_INCIDENT_AUTO_CLOSED, entity_type := ENTITY_INCIDENT
     entity_id := incident.incident_id
     before := some [("status", .str previous_status.value)]
     after := some [("incident_id", .str incident.incident_id), ("status", .str incident.status.value),
       ("previous_status", .str previous_status.value),
       ("acknowledged_at", optional_instant incident.acknowledged_at),
       ("resolved_at", optional_instant incident.resolved_at), ("ttl_seconds", .int ttl_seconds),
       ("idle_seconds", .int (round_seconds idle)), ("reason", .str "ttl_expired"), ("actor", .str ACTOR_SWEEPER)] }]

def audit_entries_for_feedback (alert_id : UUID) (verdict actor : String) : List AuditEntry :=
  [{ actor := "analyst", action := ACTION_FEEDBACK_RECEIVED, entity_type := "feedback", entity_id := alert_id
     after := some [("alert_id", .str alert_id), ("verdict", .str verdict), ("actor", .str actor)] }]

/-! ### Correlation -/

def evidence_snapshot (items : List CorrelationEvidenceItem) : Json :=
  .arr (items.map (fun item => .obj [("evidence_type", .str item.evidence_type), ("value", .str item.value),
    ("peer_alert_id", .str item.peer_alert_id)]))

def audit_entry_for_correlation_context_created (context_id : String) (member_alert_ids : List UUID)
    (evidence_reasons : List String) : AuditEntry :=
  { actor := "correlation", action := ACTION_CORRELATION_CONTEXT_CREATED, entity_type := "correlation_context"
    entity_id := context_id
    after := some [("context_id", .str context_id), ("alert_ids", .arr (member_alert_ids.map Json.str)),
      ("evidence", .arr (evidence_reasons.map Json.str))] }

def audit_entry_for_correlation_alert_linked (context_id : String) (alert_id : UUID)
    (evidence : List CorrelationEvidenceItem) : AuditEntry :=
  { actor := "correlation", action := ACTION_CORRELATION_ALERT_LINKED, entity_type := "correlation_context"
    entity_id := context_id
    after := some [("context_id", .str context_id), ("alert_id", .str alert_id),
      ("evidence", evidence_snapshot evidence)] }

def audit_entry_for_correlation_contexts_merged (kept_context_id merged_context_id : String)
    (bridge_alert_id : UUID) : AuditEntry :=
  { actor := "correlation", action := ACTION_CORRELATION_CONTEXTS_MERGED, entity_type := "correlation_context"
    entity_id := kept_context_id
    before := some [("context_id", .str merged_context_id)]
    after := some [("kept_context_id", .str kept_context_id), ("merged_context_id", .str merged_context_id),
      ("bridge_alert_id", .str bridge_alert_id)] }

end SocTriage.Audit
