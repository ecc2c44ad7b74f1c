import Mathlib.Data.List.DropRight
import SocTriage.Lifecycle

/-!
Alert deduplication: the identity and the group of a delivery, the state machine that
classifies it, and the deduplicator that keeps its groups in memory. SHA-256 is a
parameter: the hexadecimal digest of the text of a canonical JSON tree.
-/
namespace SocTriage.Deduplication

inductive DedupeStatus where
  | NEW_GENERATION | EXACT_DUPLICATE | REPEATED
deriving DecidableEq, Repr

def DedupeStatus.value : DedupeStatus → String
  | .NEW_GENERATION => "new_generation"
  | .EXACT_DUPLICATE => "exact_duplicate"
  | .REPEATED => "repeated"

/-- A deduplication window: a whole number of seconds, at least one. -/
structure Window where
  seconds : Nat
  positive : 1 ≤ seconds

/-- `timedelta(seconds=window_seconds)`. -/
def Window.delta (window : Window) : Int := SocTriage.seconds window.seconds

/-! ### Keys -/

def require_non_empty (value field : String) : Except Error String :=
  let cleaned := Text.strip value
  if cleaned = "" then .error (.invalid_input (field ++ " must be a non-empty string")) else .ok cleaned

/-- Naive timestamps are refused; the in-memory deduplicator normalizes the others. -/
def require_aware (value : Datetime) (field : String) : Except Error Datetime :=
  if value.aware then .ok value.as_utc
  else .error (.invalid_input (field ++ " must be timezone-aware, got naive datetime"))

def quote_component (value : String) : Except Error String := do
  return Text.quote (← require_non_empty value "key component")

def compute_group_key (rule_id agent_id : String) : Except Error String := do
  return "wazuh:" ++ (← quote_component rule_id) ++ ":" ++ (← quote_component agent_id)

/-- The field at the end of a path dropped, where the path leads through dictionaries. -/
def pop_path : List String → JsonObject → JsonObject
  | [], fields => fields
  | [key], fields => Json.pop key fields
  | key :: path, fields => fields.map (fun (k, v) =>
      match v with
      | .obj nested => (k, .obj (if k = key then pop_path path nested else nested))
      | other => (k, other))

def VOLATILE_IDENTITY_FIELDS : List (List String) := [["rule", "firedtimes"], ["id"]]

def identity_payload (alert : WazuhAlert) : JsonObject :=
  VOLATILE_IDENTITY_FIELDS.foldl (fun payload path => pop_path path payload) alert.model_dump

section
variable (sha256 : Json → String)

def compute_payload_fingerprint (alert : WazuhAlert) : String :=
  sha256 (Json.canonical (.obj (identity_payload alert)))

def compute_event_identity (alert : WazuhAlert) : Except Error String := do
  let rule_id ← require_non_empty alert.rule.id "rule.id"
  let agent_id ← require_non_empty alert.agent.id "agent.id"
  let event_id := Text.strip (alert.id.getD "")
  if event_id ≠ "" then
    return "wazuh:" ++ (← quote_component event_id) ++ ":" ++ (← quote_component rule_id) ++ ":" ++
      (← quote_component agent_id)
  else
    return "wazuh-h1:" ++ sha256 (Json.canonical (.obj (identity_payload alert)))

/-- Identity, group key and fingerprint of a delivery, in the order both deduplicators compute them. -/
def delivery_keys (alert : WazuhAlert) : Except Error (String × String × String) := do
  let identity ← compute_event_identity sha256 alert
  let group_key ← compute_group_key alert.rule.id alert.agent.id
  return (identity, group_key, compute_payload_fingerprint sha256 alert)

/-- No two of the alerts share a digest without sharing the payload it is taken of. -/
def CollisionFree (alerts : List WazuhAlert) : Prop :=
  ∀ a ∈ alerts, ∀ b ∈ alerts, compute_payload_fingerprint sha256 a = compute_payload_fingerprint sha256 b →
    Json.canonical (.obj (identity_payload a)) = Json.canonical (.obj (identity_payload b))
end

/-! ### Group state -/

structure EventRecord where
  event_identity : String
  alert_id : UUID
  payload_fingerprint : String
  canonical_alert : CanonicalAlert
  delivery_count : Nat := 1
  content_variants : Nat := 1
  first_delivered_at : Datetime
  last_delivered_at : Datetime
deriving DecidableEq

structure GroupState where
  group_key : String
  occurrences : Nat := 0
  first_seen : Option Datetime := none
  last_seen : Option Datetime := none
  generation : Nat := 0
  duplicate_deliveries : Nat := 0
  events : Table EventRecord.event_identity := Table.empty
deriving DecidableEq

structure DedupeOutcome where
  status : DedupeStatus
  alert_id : UUID
  group_key : String
  event_identity : String
  dedupe : CanonicalDedupe
  canonical_alert : CanonicalAlert
deriving DecidableEq

structure DeliveryDecision where
  status : DedupeStatus
  group : GroupState
  record : EventRecord
  group_before : Option GroupState := none
  record_before : Option EventRecord := none
  content_diverged : Bool := false
  generation_started : Bool := false
deriving DecidableEq

def required (value : Option Datetime) (group_key : String) : Except Error Datetime :=
  match value with
  | none => .error (.invalid_input ("group '" ++ group_key ++ "' is missing timestamps"))
  | some value => .ok value

def dedupe_info (group : GroupState) (identity : String) : Except Error CanonicalDedupe := do
  return {
    group_key := group.group_key
    occurrences := group.occurrences
    first_seen := ← required group.first_seen group.group_key
    last_seen := ← required group.last_seen group.group_key
    event_identity := some identity
    generation := group.generation
    duplicate_deliveries := group.duplicate_deliveries }

def prune_expired (group : GroupState) (now : Datetime) (window : Window) : GroupState :=
  { group with
    events := group.events.filter (fun record => !(now.instant - record.last_delivered_at.instant > window.delta)) }

def new_event_record (canonical : CanonicalAlert) (identity fingerprint : String) (dedupe : CanonicalDedupe)
    (received : Datetime) : EventRecord where
  event_identity := identity
  alert_id := canonical.alert_id
  payload_fingerprint := fingerprint
  canonical_alert := { canonical with dedupe := some dedupe }
  first_delivered_at := received
  last_delivered_at := received

/-- The event record after one more delivery. -/
def redelivered (existing : EventRecord) (fingerprint : String) (received : Datetime) : EventRecord :=
  { existing with
    delivery_count := existing.delivery_count + 1
    content_variants :=
      if existing.payload_fingerprint ≠ fingerprint then existing.content_variants + 1 else existing.content_variants
    payload_fingerprint := fingerprint
    last_delivered_at := received }

/-- The state a distinct event starts when it comes past the window. -/
def restarted (group : GroupState) (received : Datetime) : GroupState :=
  { group with
    generation := group.generation + 1
    occurrences := 1
    first_seen := some received
    last_seen := some received
    duplicate_deliveries := 0 }

/-- The state a distinct event continues within the window. -/
def continued (group : GroupState) (received : Datetime) : GroupState :=
  { group with occurrences := group.occurrences + 1, last_seen := some received }

/-- The recurrence state after a distinct event: a new generation past the window, else a recurrence. -/
def recurred (group : GroupState) (last_seen received : Datetime) (window : Window) : DedupeStatus × GroupState :=
  if received.instant - last_seen.instant > window.delta then (.NEW_GENERATION, restarted group received)
  else (.REPEATED, continued group received)

/-- The group of a first event, before its record. -/
def started (group_key : String) (received : Datetime) : GroupState :=
  { group_key, generation := 1, occurrences := 1, first_seen := some received, last_seen := some received }

/-- The decision on a tracked group whose expired records are dropped. -/
def classify (group : GroupState) (identity fingerprint : String) (received : Datetime) (window : Window)
    (canonical : CanonicalAlert) : Except Error DeliveryDecision :=
  match group.events.get identity with
  | some existing =>
    let record := redelivered existing fingerprint received
    .ok {
      status := .EXACT_DUPLICATE
      group := { group with
        events := group.events.put record
        duplicate_deliveries := group.duplicate_deliveries + 1 }
      record
      group_before := some group
      record_before := some existing
      content_diverged := existing.payload_fingerprint != fingerprint }
  | none => do
    let last_seen ← required group.last_seen group.group_key
    let (status, moved) := recurred group last_seen received window
    let dedupe ← dedupe_info moved identity
    let record := new_event_record canonical identity fingerprint dedupe received
    return {
      status
      group := { moved with events := moved.events.put record }
      record
      group_before := some group
      generation_started := status == .NEW_GENERATION }

def decide_delivery (group : Option GroupState) (group_key identity fingerprint : String) (received : Datetime)
    (window : Window) (canonical : CanonicalAlert) : Except Error DeliveryDecision :=
  match group with
  | none => do
    let new_group := started group_key received
    let dedupe ← dedupe_info new_group identity
    let record := new_event_record canonical identity fingerprint dedupe received
    return {
      status := .NEW_GENERATION
      group := { new_group with events := new_group.events.put record }
      record
      generation_started := true }
  | some group => classify (prune_expired group received window) identity fingerprint received window canonical

/-- The answer to a delivery: the alert of record and the snapshot of its group. -/
def answer (decision : DeliveryDecision) (identity : String) (dedupe : CanonicalDedupe) : DedupeOutcome where
  status := decision.status
  alert_id := decision.record.alert_id
  group_key := decision.group.group_key
  event_identity := identity
  dedupe := dedupe
  canonical_alert := decision.record.canonical_alert

/-! ### The deduplicator in memory -/

structure InMemoryDeduplicator where
  window : Window
  groups : Table GroupState.group_key := Table.empty

namespace InMemoryDeduplicator

/-- Classify a delivery; on an error nothing is stored. -/
def process (sha256 : Json → String) (self : InMemoryDeduplicator) (alert : WazuhAlert)
    (canonical : CanonicalAlert) (received_at : Datetime) : Except Error (DedupeOutcome × InMemoryDeduplicator) := do
  let (identity, group_key, fingerprint) ← delivery_keys sha256 alert
  let received ← require_aware received_at "received_at"
  let decision ← decide_delivery (self.groups.get group_key) group_key identity fingerprint received self.window canonical
  let dedupe ← dedupe_info decision.group identity
  return (answer decision identity dedupe, { self with groups := self.groups.put decision.group })

def group_state (self : InMemoryDeduplicator) (group_key : String) : Option GroupState := self.groups.get group_key

def group_count (self : InMemoryDeduplicator) : Nat := self.groups.rows.length

end InMemoryDeduplicator

section
variable {sha256 : Json → String} {self : InMemoryDeduplicator} {alert : WazuhAlert} {canonical : CanonicalAlert}
  {received_at : Datetime}

theorem process_ok {identity group_key fingerprint : String} {decision : DeliveryDecision} {dedupe : CanonicalDedupe}
    (keys : delivery_keys sha256 alert = .ok (identity, group_key, fingerprint)) (zoned : received_at.aware = true)
    (decided : decide_delivery (self.groups.get group_key) group_key identity fingerprint received_at.as_utc self.window
      canonical = .ok decision) (info : dedupe_info decision.group identity = .ok dedupe) :
    self.process sha256 alert canonical received_at =
      .ok (answer decision identity dedupe, { self with groups := self.groups.put decision.group }) := by
  simp only [InMemoryDeduplicator.process, keys, require_aware, zoned, decided, info, bind, Except.bind, ↓reduceIte]
  rfl

theorem process_refused {e : Error} (refused : delivery_keys sha256 alert = .error e) :
    self.process sha256 alert canonical received_at = .error e := by
  simp only [InMemoryDeduplicator.process, refused, bind, Except.bind]

theorem process_naive {value : String × String × String} (keys : delivery_keys sha256 alert = .ok value)
    (naive : received_at.aware = false) :
    self.process sha256 alert canonical received_at =
      .error (.invalid_input "received_at must be timezone-aware, got naive datetime") := by
  simp only [InMemoryDeduplicator.process, keys, require_aware, naive, bind, Except.bind, Bool.false_eq_true, ↓reduceIte]
  rfl
end

/-! ### What a decision is -/

/-- The dedupe snapshot of a group that has its timestamps. -/
def snapshot (group : GroupState) (first last : Datetime) (identity : String) : CanonicalDedupe where
  group_key := group.group_key
  occurrences := group.occurrences
  first_seen := first
  last_seen := last
  event_identity := some identity
  generation := group.generation
  duplicate_deliveries := group.duplicate_deliveries

/-- The decision that records a distinct event into the moved group. -/
def record_decision (status : DedupeStatus) (before : Option GroupState) (moved : GroupState) (first : Datetime)
    (identity fingerprint : String) (received : Datetime) (canonical : CanonicalAlert) : DeliveryDecision :=
  let record := new_event_record canonical identity fingerprint (snapshot moved first received identity) received
  { status
    group := { moved with events := moved.events.put record }
    record
    group_before := before
    generation_started := status == .NEW_GENERATION }

/-- The decision that absorbs one more delivery of a known event. -/
def duplicate_decision (group : GroupState) (existing : EventRecord) (fingerprint : String) (received : Datetime) :
    DeliveryDecision :=
  let record := redelivered existing fingerprint received
  { status := .EXACT_DUPLICATE
    group := { group with
      events := group.events.put record
      duplicate_deliveries := group.duplicate_deliveries + 1 }
    record
    group_before := some group
    record_before := some existing
    content_diverged := existing.payload_fingerprint != fingerprint }

theorem dedupe_info_ok {group : GroupState} {first last : Datetime} (identity : String)
    (begun : group.first_seen = some first) (seen : group.last_seen = some last) :
    dedupe_info group identity = .ok (snapshot group first last identity) := by
  simp [dedupe_info, begun, seen, required, snapshot, bind, Except.bind, pure, Except.pure]

/-- A group's first event starts its first generation. -/
theorem decide_delivery_none (group_key identity fingerprint : String) (received : Datetime) (window : Window)
    (canonical : CanonicalAlert) :
    decide_delivery none group_key identity fingerprint received window canonical =
      .ok (record_decision .NEW_GENERATION none (started group_key received) received identity fingerprint received
        canonical) := by
  simp only [decide_delivery]
  rw [@dedupe_info_ok (started group_key received) received received identity rfl rfl]
  rfl

theorem classify_known {group : GroupState} {identity : String} {existing : EventRecord}
    (known : group.events.get identity = some existing) (fingerprint : String) (received : Datetime) (window : Window)
    (canonical : CanonicalAlert) :
    classify group identity fingerprint received window canonical =
      .ok (duplicate_decision group existing fingerprint received) := by
  rw [classify, known]; rfl

theorem recurred_expired (group : GroupState) {last received : Datetime} {window : Window}
    (expired : received.instant - last.instant > window.delta) :
    recurred group last received window = (.NEW_GENERATION, restarted group received) := by
  rw [recurred, if_pos expired]

theorem recurred_within (group : GroupState) {last received : Datetime} {window : Window}
    (within : ¬ received.instant - last.instant > window.delta) :
    recurred group last received window = (.REPEATED, continued group received) := by
  rw [recurred, if_neg within]

theorem classify_new {group : GroupState} {identity : String} {first last : Datetime}
    (unknown : group.events.get identity = none) (begun : group.first_seen = some first)
    (seen : group.last_seen = some last) (fingerprint : String) (received : Datetime) (window : Window)
    (canonical : CanonicalAlert) :
    classify group identity fingerprint received window canonical =
      .ok (record_decision (recurred group last received window).1 (some group) (recurred group last received window).2
        (if received.instant - last.instant > window.delta then received else first) identity fingerprint received
        canonical) := by
  rw [classify, unknown]
  simp only [seen, required, bind, Except.bind]
  by_cases expired : received.instant - last.instant > window.delta
  · rw [recurred_expired group expired, if_pos expired]
    dsimp only
    rw [@dedupe_info_ok (restarted group received) received received identity rfl rfl]
    rfl
  · rw [recurred_within group expired, if_neg expired]
    dsimp only
    rw [@dedupe_info_ok (continued group received) first received identity begun rfl]
    rfl

@[simp] theorem recurred_group_key (group : GroupState) (last received : Datetime) (window : Window) :
    (recurred group last received window).2.group_key = group.group_key := by
  rw [recurred]; split <;> rfl
@[simp] theorem recurred_events (group : GroupState) (last received : Datetime) (window : Window) :
    (recurred group last received window).2.events = group.events := by
  rw [recurred]; split <;> rfl

/-- A distinct event is never classified as a duplicate. -/
theorem recurred_status (group : GroupState) (last received : Datetime) (window : Window) :
    (recurred group last received window).1 ≠ .EXACT_DUPLICATE := by
  rw [recurred]; split <;> simp

@[simp] theorem prune_expired_group_key (group : GroupState) (now : Datetime) (window : Window) :
    (prune_expired group now window).group_key = group.group_key := rfl
@[simp] theorem prune_expired_first_seen (group : GroupState) (now : Datetime) (window : Window) :
    (prune_expired group now window).first_seen = group.first_seen := rfl
@[simp] theorem prune_expired_last_seen (group : GroupState) (now : Datetime) (window : Window) :
    (prune_expired group now window).last_seen = group.last_seen := rfl

/-- An event record is found until its last delivery lies more than the window back. -/
theorem prune_expired_get (group : GroupState) (now : Datetime) (window : Window) (identity : String) :
    (prune_expired group now window).events.get identity =
      (group.events.get identity).filter (fun record =>
        !(now.instant - record.last_delivered_at.instant > window.delta)) := by
  rw [prune_expired]; exact Table.get_filter _ _ _

end SocTriage.Deduplication
