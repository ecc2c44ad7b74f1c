import SocTriage.Tables
import SocTriage.Json
import SocTriage.Datetime

/-!
The domain records of the pipeline: the validated Wazuh payload, the indicators, the
risk and decision results, and the canonical alert of record they end up on. A canonical
alert survives `model_dump` and `model_validate`, so a stored `normalized_payload` is the
canonical alert itself.
-/
namespace SocTriage

/-- A UUID as its canonical text, which orders as the 32 hexadecimal digits of the column do. -/
abbrev UUID := String

/-! ### The source payload -/

/-- The validated rule block; `fields` are its other fields as they are dumped. -/
structure WazuhRule where
  id : String
  level : Nat
  description : String
  firedtimes : Nat := 0
  fields : JsonObject := []
deriving DecidableEq

/-- The validated agent block; `fields` are its other fields as they are dumped. -/
structure WazuhAgent where
  id : String
  name : String
  fields : JsonObject := []
deriving DecidableEq

/-- A validated payload; `fields` are the other top-level fields as they are dumped. -/
structure WazuhAlert where
  id : Option String := none
  rule : WazuhRule
  agent : WazuhAgent
  fields : JsonObject := []
deriving DecidableEq

def WazuhRule.model_dump (rule : WazuhRule) : JsonObject :=
  ("id", .str rule.id) :: ("level", .int rule.level) :: ("description", .str rule.description) ::
    ("firedtimes", .int rule.firedtimes) :: rule.fields

def WazuhAgent.model_dump (agent : WazuhAgent) : JsonObject :=
  ("id", .str agent.id) :: ("name", .str agent.name) :: agent.fields

/-- `alert.model_dump(mode="json")`. -/
def WazuhAlert.model_dump (alert : WazuhAlert) : JsonObject :=
  ("id", match alert.id with | none => .null | some id => .str id) ::
    ("rule", .obj alert.rule.model_dump) :: ("agent", .obj alert.agent.model_dump) :: alert.fields

/-! ### Indicators -/

inductive IOCType where
  | IPV4 | DOMAIN | URL | MD5 | SHA1 | SHA256 | EMAIL
deriving DecidableEq, Repr

def IOCType.value : IOCType → String
  | .IPV4 => "ipv4"
  | .DOMAIN => "domain"
  | .URL => "url"
  | .MD5 => "md5"
  | .SHA1 => "sha1"
  | .SHA256 => "sha256"
  | .EMAIL => "email"

theorem IOCType.value_inj {type type' : IOCType} (same : type.value = type'.value) : type = type' := by
  revert same; cases type <;> cases type' <;> decide

structure IOCProvenance where
  field : String
  extractor : String
  raw_value : String
  offset : Option Nat := none
  location : Option String := none
deriving DecidableEq

/-- Provider name to provider payload. -/
abbrev Enrichment := Table (Prod.fst : String × JsonObject → String)

structure IOC where
  type : IOCType
  value : String
  provenance : List IOCProvenance := []
  enrichment : Enrichment := Table.empty
deriving DecidableEq

def ioc_key (ioc : IOC) : String := ioc.type.value ++ ":" ++ ioc.value

/-- Python's truth value of a JSON value. -/
def Json.truthy : Json → Bool
  | .null => false
  | .bool b => b
  | .int n => n != 0
  | .float r => !(["0.0", "-0.0"].contains r)
  | .str s => s != ""
  | .arr items => !items.isEmpty
  | .obj fields => !fields.isEmpty

/-- Whether the allowlist provider matched the indicator. -/
def ioc_is_allowlisted (ioc : IOC) : Bool :=
  match ioc.enrichment.get "allowlist" with
  | none => false
  | some (_, allowlist) => ((Json.lookup "matched" allowlist).map Json.truthy).getD false

/-! ### Risk and decision -/

inductive RiskTier where
  | INFORMATIONAL | LOW | MEDIUM | HIGH | CRITICAL
deriving DecidableEq, Repr

def RiskTier.value : RiskTier → String
  | .INFORMATIONAL => "informational"
  | .LOW => "low"
  | .MEDIUM => "medium"
  | .HIGH => "high"
  | .CRITICAL => "critical"

structure ScoreFactor where
  name : String
  points : Int
  max : Nat
  detail : String
deriving DecidableEq

structure RiskAssessment where
  score : Nat
  tier : RiskTier
  engine_version : String
  factors : List ScoreFactor
  summary : String
  degraded : Bool := false
deriving DecidableEq

inductive DecisionAction where
  | SUPPRESS | MONITOR | QUEUE_L1 | OPEN_INCIDENT
deriving DecidableEq, Repr

def DecisionAction.value : DecisionAction → String
  | .SUPPRESS => "suppress"
  | .MONITOR => "monitor"
  | .QUEUE_L1 => "queue_l1"
  | .OPEN_INCIDENT => "open_incident"

inductive DecisionSeverity where
  | SEV1 | SEV2
deriving DecidableEq, Repr

def DecisionSeverity.value : DecisionSeverity → String
  | .SEV1 => "SEV1"
  | .SEV2 => "SEV2"

structure Decision where
  action : DecisionAction
  severity : Option DecisionSeverity := none
  reasons : List String := []
  runbook : Option String := none
  decided_at : Datetime
deriving DecidableEq

/-! ### The alert of record -/

structure CanonicalRule where
  id : String
  level : Int
  description : String
  groups : List String := []
  mitre : JsonObject := []
deriving DecidableEq

structure CanonicalAgent where
  id : String
  name : String
  ip : Option String := none
deriving DecidableEq

structure CanonicalAsset where
  name : Option String := none
  tier : Option String := none
  owner : Option String := none
deriving DecidableEq

structure CanonicalSourceEvent where
  rule : CanonicalRule
  agent : CanonicalAgent
  location : Option String := none
  full_log : Option String := none
  data : JsonObject := []
  syscheck : JsonObject := []
deriving DecidableEq

structure CanonicalDedupe where
  group_key : String
  occurrences : Nat
  first_seen : Datetime
  last_seen : Datetime
  event_identity : Option String
  generation : Nat
  duplicate_deliveries : Nat
deriving DecidableEq

structure CanonicalAlert where
  alert_id : UUID
  source : String := "wazuh"
  received_at : Datetime
  source_event : CanonicalSourceEvent
  dedupe : Option CanonicalDedupe := none
  iocs : List IOC := []
  asset : Option CanonicalAsset := none
  enrichment_status : Option String := none
  risk : Option RiskAssessment := none
  decision : Option Decision := none
deriving DecidableEq

/-- One evidence item of a correlation membership; the peer is the other alert of the pair. -/
structure CorrelationEvidenceItem where
  evidence_type : String
  value : String
  peer_alert_id : String
deriving DecidableEq, Repr

end SocTriage
