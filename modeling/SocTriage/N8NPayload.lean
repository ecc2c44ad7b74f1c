import SocTriage.Notifications
import SocTriage.PythonRepr

/-!
The payload of a notification: what of a scored alert goes into it, field by field, the
indicators with the part of their enrichment that is let through, and the last check, which
looks for `full_log` in the text of the whole payload.
-/
namespace SocTriage.N8NPayload
open Audit (optional_text)
open PythonRepr

/-- What Python brings along: the printable characters beyond ASCII, and whether the nesting of a dictionary is followed by
    `model_dump` and its integers are written by `str`. -/
structure Python where
  printable : Char → Bool
  dumpable : JsonObject → Bool

inductive Exn where
  | ValueError (message : String)
  | AssertionError (message : String)
  | unwritable
deriving DecidableEq, Repr

/-! ### The parts -/

structure RuleInfo where
  id : String
  level : Int
  description : String
  groups : List String := []
  mitre : JsonObject := []

structure AgentInfo where
  id : String
  name : String
  ip : Option String := none

structure RecurrenceInfo where
  group_key : String
  occurrences : Nat
  generation : Nat
  first_seen : Option String := none
  last_seen : Option String := none
  duplicate_deliveries : Nat := 0
  dedupe_status : String
  event_identity : Option String := none

structure IOCSummary where
  type : String
  value : String
  enrichment : JsonObject := []

structure EnrichmentSummary where
  status : String
  providers : List JsonObject := []
  ioc_count : Nat := 0

structure DecisionInfo where
  action : String
  severity : Option String := none
  reasons : List String := []
  runbook : Option String := none
  decided_at : Option String := none

structure RiskInfo where
  score : Nat
  tier : String
  engine_version : String
  factors : List JsonObject := []
  summary : String := ""
  degraded : Bool := false

structure InvestigationLinks where
  alert_api : String
  alert_console : Option String := none
  runbook : Option String := none
  feedback_url : Option String := none
  ioc_links : List (String × String) := []

structure N8NAlertPayload where
  alert_id : String
  received_at : String
  source : String
  risk : RiskInfo
  decision : DecisionInfo
  rule : RuleInfo
  agent : AgentInfo
  asset : Option JsonObject := none
  recurrence : RecurrenceInfo
  iocs : List IOCSummary := []
  enrichment : EnrichmentSummary
  investigation_links : InvestigationLinks
  severity : String
  score : Nat
  dedupe_status : String

/-! ### Their dumps -/

def texts (items : List String) : Json := .arr (items.map Json.str)

def RuleInfo.model_dump (self : RuleInfo) : JsonObject :=
  [("id", .str self.id), ("level", .int self.level), ("description", .str self.description), ("groups", texts self.groups),
    ("mitre", .obj self.mitre)]

def AgentInfo.model_dump (self : AgentInfo) : JsonObject :=
  [("id", .str self.id), ("name", .str self.name), ("ip", optional_text self.ip)]

def RecurrenceInfo.model_dump (self : RecurrenceInfo) : JsonObject :=
  [("group_key", .str self.group_key), ("occurrences", .int self.occurrences), ("generation", .int self.generation),
    ("first_seen", optional_text self.first_seen), ("last_seen", optional_text self.last_seen),
    ("duplicate_deliveries", .int self.duplicate_deliveries), ("dedupe_status", .str self.dedupe_status),
    ("event_identity", optional_text self.event_identity)]

def IOCSummary.model_dump (self : IOCSummary) : JsonObject :=
  [("type", .str self.type), ("value", .str self.value), ("enrichment", .obj self.enrichment)]

def EnrichmentSummary.model_dump (self : EnrichmentSummary) : JsonObject :=
  [("status", .str self.status), ("providers", .arr (self.providers.map Json.obj)), ("ioc_count", .int self.ioc_count)]

def DecisionInfo.model_dump (self : DecisionInfo) : JsonObject :=
  [("action", .str self.action), ("severity", optional_text self.severity), ("reasons", texts self.reasons),
    ("runbook", optional_text self.runbook), ("decided_at", optional_text self.decided_at)]

def RiskInfo.model_dump (self : RiskInfo) : JsonObject :=
  [("score", .int self.score), ("tier", .str self.tier), ("engine_version", .str self.engine_version),
    ("factors", .arr (self.factors.map Json.obj)), ("summary", .str self.summary), ("degraded", .bool self.degraded)]

def InvestigationLinks.model_dump (self : InvestigationLinks) : JsonObject :=
  [("alert_api", .str self.alert_api), ("alert_console", optional_text self.alert_console),
    ("runbook", optional_text self.runbook), ("feedback_url", optional_text self.feedback_url),
    ("ioc_links", .obj (self.ioc_links.map (fun link => (link.1, .str link.2))))]

/-- `self.model_dump(mode="json")`. -/
def N8NAlertPayload.model_dump (self : N8NAlertPayload) : JsonObject :=
  [("alert_id", .str self.alert_id), ("received_at", .str self.received_at), ("source", .str self.source),
    ("risk", .obj self.risk.model_dump), ("decision", .obj self.decision.model_dump), ("rule", .obj self.rule.model_dump),
    ("agent", .obj self.agent.model_dump), ("asset", (self.asset.map Json.obj).getD .null),
    ("recurrence", .obj self.recurrence.model_dump), ("iocs", .arr (self.iocs.map (fun ioc => .obj ioc.model_dump))),
    ("enrichment", .obj self.enrichment.model_dump), ("investigation_links", .obj self.investigation_links.model_dump),
    ("severity", .str self.severity), ("score", .int self.score), ("dedupe_status", .str self.dedupe_status)]

def N8NAlertPayload.model_dump_sanitized (py : Python) (self : N8NAlertPayload) : Except Exn JsonObject :=
  if !(py.dumpable self.rule.mitre && self.iocs.all (fun ioc => py.dumpable ioc.enrichment)) then .error .unwritable
  else if Mentions FULL_LOG (repr py.printable (.obj self.model_dump)) then
    .error (.AssertionError "payload must not contain full_log")
  else .ok self.model_dump

/-! ### Enrichment -/

def ALLOWED_KEYS : List String :=
  ["provider", "indicator_type", "lookup_status", "timestamp", "result", "reputation", "malicious", "suspicious", "harmless",
    "undetected", "matched", "matched_event_ids", "tags", "threat_level", "classification"]

/-- The keys that `_sanitize_enrichment` names a second time. -/
def VERDICT_KEYS : List String :=
  ["malicious", "suspicious", "harmless", "undetected", "reputation", "tags", "matched", "matched_event_ids"]

/-- A text of more than 500 characters is cut. -/
def truncated : Json → Json
  | .str text => if 500 < text.length then .str (String.ofList (text.toList.take 500) ++ "...[truncated]") else .str text
  | value => value

/-- One more level of a provider payload. -/
def sanitize_nested (fields : JsonObject) : JsonObject :=
  fields.filterMap (fun field => if ALLOWED_KEYS.contains field.1 then some (field.1, truncated field.2) else none)

/-- One field of a provider payload, if any of it is let through. -/
def sanitize_field (field : String × Json) : Option (String × Json) :=
  if ALLOWED_KEYS.contains field.1 || VERDICT_KEYS.contains field.1 then some (field.1, truncated field.2)
  else
    match field.2 with
    | .obj fields => if (sanitize_nested fields).isEmpty then none else some (field.1, .obj (sanitize_nested fields))
    | _ => none

/-- What one provider, or another entry, leaves in the enrichment. -/
def sanitize_entry (entry : String × Json) : Option (String × Json) :=
  match entry.2 with
  | .obj fields =>
    if (fields.filterMap sanitize_field).isEmpty then none else some (entry.1, .obj (fields.filterMap sanitize_field))
  | .bool _ | .int _ | .float _ => some entry
  | .str text => if text.length ≤ 200 then some entry else none
  | .null | .arr _ => none

def sanitize_enrichment (enrichment : JsonObject) : JsonObject := enrichment.filterMap sanitize_entry

def build_ioc_summary (ioc : IOC) : IOCSummary where
  type := ioc.type.value
  value := ioc.value
  enrichment := sanitize_enrichment (ioc.enrichment.rows.map (fun row => (row.1, .obj row.2)))

/-! ### The payload -/

/-- `(investigation_base_url or "").rstrip("/")`. -/
def base_url (investigation_base_url : Option String) : String :=
  String.ofList ((investigation_base_url.getD "").toList.reverse.dropWhile (· = '/')).reverse

/-- A relative runbook is made absolute. -/
def runbook_link (base : String) (runbook : Option String) : Option String :=
  runbook.map (fun runbook =>
    if runbook ≠ "" && base ≠ "" && !Text.starts_with "http" runbook then
      base ++ "/" ++ String.ofList (runbook.toList.dropWhile (· = '/'))
    else runbook)

def investigation_links (base : String) (alert_id : UUID) (runbook : Option String) : InvestigationLinks where
  alert_api := base ++ "/api/v1/alerts/" ++ alert_id
  alert_console := if base ≠ "" then some (base ++ "/alerts/" ++ alert_id) else none
  runbook := runbook_link base runbook
  feedback_url := some (base ++ "/api/v1/alerts/" ++ alert_id ++ "/feedback")

def factor_entry (factor : ScoreFactor) : JsonObject :=
  [("name", .str factor.name), ("points", .int factor.points), ("max", .int factor.max), ("detail", .str factor.detail)]

def asset_entry (asset : CanonicalAsset) : JsonObject :=
  [("name", optional_text asset.name), ("tier", optional_text asset.tier), ("owner", optional_text asset.owner)]

def recurrence_info (dedupe : Option CanonicalDedupe) (dedupe_status : String) : RecurrenceInfo where
  group_key := (dedupe.map CanonicalDedupe.group_key).getD ""
  occurrences := (dedupe.map CanonicalDedupe.occurrences).getD 1
  generation := (dedupe.map CanonicalDedupe.generation).getD 1
  first_seen := dedupe.map (fun dedupe => dedupe.first_seen.isoformat)
  last_seen := dedupe.map (fun dedupe => dedupe.last_seen.isoformat)
  dedupe_status := dedupe_status
  event_identity := dedupe.bind CanonicalDedupe.event_identity

/-- The payload of an alert with its risk and its decision. -/
def payload_of (alert : CanonicalAlert) (risk : RiskAssessment) (decision : Decision) (dedupe_status : String)
    (base : String) : N8NAlertPayload where
  alert_id := alert.alert_id
  received_at := alert.received_at.isoformat
  source := alert.source
  risk :=
    { score := risk.score, tier := risk.tier.value, engine_version := risk.engine_version
      factors := risk.factors.map factor_entry, summary := risk.summary, degraded := risk.degraded }
  decision :=
    { action := decision.action.value, severity := decision.severity.map DecisionSeverity.value, reasons := decision.reasons
      runbook := decision.runbook, decided_at := some decision.decided_at.isoformat }
  rule :=
    { id := alert.source_event.rule.id, level := alert.source_event.rule.level
      description := alert.source_event.rule.description, groups := alert.source_event.rule.groups
      mitre := alert.source_event.rule.mitre }
  agent := { id := alert.source_event.agent.id, name := alert.source_event.agent.name, ip := alert.source_event.agent.ip }
  asset := alert.asset.map asset_entry
  recurrence := recurrence_info alert.dedupe dedupe_status
  iocs := alert.iocs.map build_ioc_summary
  enrichment := { status := (alert.enrichment_status.filter (· ≠ "")).getD "skipped", ioc_count := alert.iocs.length }
  investigation_links := investigation_links base alert.alert_id decision.runbook
  severity := risk.tier.value
  score := risk.score
  dedupe_status := dedupe_status

def build_n8n_payload (py : Python) (alert : CanonicalAlert) (dedupe_status : String)
    (investigation_base_url : Option String) : Except Exn N8NAlertPayload :=
  match alert.risk, alert.decision with
  | none, _ => .error (.ValueError "alert must be scored before building n8n payload")
  | some _, none => .error (.ValueError "alert must have a decision before building n8n payload")
  | some risk, some decision => do
    let payload := payload_of alert risk decision dedupe_status (base_url investigation_base_url)
    let _ ← payload.model_dump_sanitized py
    return payload

/-- A payload is about the alert it is built from. -/
theorem build_named {py : Python} {alert : CanonicalAlert} {dedupe_status : String} {investigation_base_url : Option String}
    {payload : N8NAlertPayload} (built : build_n8n_payload py alert dedupe_status investigation_base_url = .ok payload) :
    payload.alert_id = alert.alert_id := by
  rw [build_n8n_payload] at built
  split at built
  · cases built
  · cases built
  · obtain ⟨_, _, same⟩ := bind_ok.mp built
    rw [← Except.ok.inj same]
    rfl

/-- The builder as the notification step uses it, which swallows what it raises. -/
def builder (py : Python) (investigation_base_url : Option String) (alert : CanonicalAlert) (dedupe_status : String) :
    Option Json :=
  match build_n8n_payload py alert dedupe_status investigation_base_url with
  | .error _ => none
  | .ok payload => some (.obj payload.model_dump)

end SocTriage.N8NPayload
